import ScenarioCheck.Number.Double
import ScenarioCheck.Text.Blank
import ScenarioCheck.Text.Digit

/-! Reading numbers from text. -/
namespace ScenarioCheck.Number

def digitValue? (base : Nat) (c : Char) : Option Nat :=
  let v? := if c.isDigit then some (c.toNat - 48)
    else if 'a' ≤ c ∧ c ≤ 'f' then some (c.toNat - 87)
    else if 'A' ≤ c ∧ c ≤ 'F' then some (c.toNat - 55) else none
  v?.filter (· < base)

/-- A digit, then digits and underscores, no underscore doubled or last. -/
def digits? (base : Nat) (text : List Char) : Option Nat :=
  go none text
where
  go (value? : Option Nat) : List Char → Option Nat
    | [] => value?
    | '_' :: c :: rest => do
      let value ← value?
      let d ← digitValue? base c
      go (some (value * base + d)) rest
    | c :: rest => do
      let d ← digitValue? base c
      go (some (value?.getD 0 * base + d)) rest

def digitCount (text : List Char) : Nat := (text.filter (· != '_')).length

def exponent? : List Char → Option Int
  | '+' :: rest => (digits? 10 rest).map Int.ofNat
  | '-' :: rest => (digits? 10 rest).map fun n => -Int.ofNat n
  | rest => (digits? 10 rest).map Int.ofNat

/-- Optional digits: an empty text counts as no digits. -/
def optionalDigits? (text : List Char) : Option Nat :=
  if text.isEmpty then some 0 else digits? 10 text

/-- An unsigned decimal: digits, a point, digits (not both parts empty), then an exponent. -/
def decimal? (negative : Bool) (text : List Char) : Option Double := do
  let isMark (c : Char) : Bool := c == 'e' || c == 'E'
  let body := text.takeWhile fun c => !isMark c
  let exponent ← match text.dropWhile fun c => !isMark c with
    | [] => some 0
    | _ :: rest => exponent? rest
  let whole := body.takeWhile (· != '.')
  let fraction := (body.dropWhile (· != '.')).drop 1
  if whole.isEmpty && fraction.isEmpty then none
  else
    let w ← optionalDigits? whole
    let f ← optionalDigits? fraction
    let places := digitCount fraction
    some (.ofDecimal negative (w * Nat.pow 10 places + f) (exponent - places))

/-- A number as a user writes it: white space around it, a sign, a decimal with digits of any script
or one of the words for infinity and not-a-number in any case. -/
def double? (label : Nat) (text : String) : Option Double :=
  let chars := (Text.trim text.toList).map Text.plainDigit
  let (negative, rest) := match chars with
    | '-' :: rest => (true, rest)
    | '+' :: rest => (false, rest)
    | rest => (false, rest)
  match String.ofList (rest.map Char.toLower) with
  | "inf" | "infinity" => some (.infinite negative)
  | "nan" => some (.nan label)
  | _ => decimal? negative rest

end ScenarioCheck.Number
