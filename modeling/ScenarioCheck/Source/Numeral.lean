import ScenarioCheck.Number.Read
import ScenarioCheck.Source.Syntax
import ScenarioCheck.Text.Word

/-! Numerals: how far one reaches and what it stands for. -/
namespace ScenarioCheck.Source.Numeral

open Number (Double)

/-- Digits with single underscores between them, and what follows; none if an underscore is not
followed by a digit. -/
def digitRun? (isDigit : Char → Bool) : List Char → Option (List Char × List Char)
  | '_' :: c :: rest =>
    if isDigit c then (digitRun? isDigit rest).map fun (run, rest) => ('_' :: c :: run, rest)
    else none
  | ['_'] => none
  | c :: rest =>
    if isDigit c then (digitRun? isDigit rest).map fun (run, rest) => (c :: run, rest)
    else some ([], c :: rest)
  | [] => some ([], [])

def continuesName (c : Char) : Bool := c.isAlphanum || c == '_' || 0x80 ≤ c.toNat

/-- Words that may follow a numeral without a blank. -/
def followers : List (List Char) :=
  ["and", "else", "for", "if", "in", "is", "or", "not"].map String.toList

/-- A numeral ends before anything but a name; some reserved words are no name. -/
def endsBefore (rest : List Char) : Bool :=
  match rest with
  | c :: _ => !continuesName c || followers.any (·.isPrefixOf rest)
  | [] => true

def valueOf (base : Nat) (run : List Char) : Nat :=
  run.foldl (fun n c => match Number.digitValue? base c with
    | some d => n * base + d
    | none => n) 0

def based? (base : Nat) (rest : List Char) : Option (Constant × List Char) := do
  let isDigit (c : Char) : Bool := (Number.digitValue? base c).isSome
  let (run, rest) ← digitRun? isDigit rest
  if run.all (· == '_') then none
  else if endsBefore rest && !(rest.head?.any Char.isDigit) then
    some (.int (valueOf base run), rest)
  else none

/-- The most decimal digits a whole number may have. -/
def maxDigits : Nat := 4300

/-- An exponent with its mark. A mark that no digit follows does not belong to the numeral, unless
a sign follows it. -/
def exponentRun? (rest : List Char) : Option (List Char × List Char) :=
  match rest with
  | e :: after =>
    if e == 'e' || e == 'E' then
      match after with
      | s :: more =>
        if s == '+' || s == '-' then
          if more.head?.any Char.isDigit then
            (digitRun? Char.isDigit more).map fun (run, rest) => (e :: s :: run, rest)
          else none
        else if s.isDigit then
          (digitRun? Char.isDigit after).map fun (run, rest) => (e :: run, rest)
        else some ([], rest)
      | [] => some ([], rest)
    else some ([], rest)
  | [] => some ([], [])

/-- The text of a decimal numeral before any imaginary unit, split at its point. -/
structure Decimal where
  whole : List Char
  fraction? : Option (List Char)
  exponent : List Char

def decimalRun? (text : List Char) : Option (Decimal × List Char) := do
  let (whole, rest) ← digitRun? Char.isDigit text
  match rest with
  | '.' :: more =>
    let (fraction, rest) ←
      if more.head?.any Char.isDigit then digitRun? Char.isDigit more else some ([], more)
    let (exponent, rest) ← exponentRun? rest
    some (⟨whole, some fraction, exponent⟩, rest)
  | rest =>
    let (exponent, rest) ← exponentRun? rest
    some (⟨whole, none, exponent⟩, rest)

def Decimal.text (d : Decimal) : List Char :=
  d.whole ++ (match d.fraction? with
    | some f => '.' :: f
    | none => []) ++ d.exponent

/-- Reads a decimal numeral. A whole number has no leading zeros, except that zero may be written
with several. -/
def decimal? (text : List Char) : Option (Constant × List Char) := do
  let (d, rest) ← decimalRun? text
  let double? := Number.decimal? false d.text
  match rest with
  | c :: after =>
    if c == 'j' || c == 'J' then
      if endsBefore after then double?.map fun x => (.imaginary x, after) else none
    else finish d double? rest
  | [] => finish d double? rest
where
  finish (d : Decimal) (double? : Option Double) (rest : List Char) :
      Option (Constant × List Char) :=
    if !endsBefore rest then none
    else if d.fraction?.isSome || !d.exponent.isEmpty then double?.map fun x => (.float x, rest)
    else
      let digits := d.whole.filter (· != '_')
      if digits.head? == some '0' && digits.any (· != '0') then none
      else if maxDigits < digits.length then none
      else some (.int (valueOf 10 digits), rest)

def read? (text : List Char) : Option (Constant × List Char) :=
  match text with
  | '0' :: c :: rest =>
    if c == 'x' || c == 'X' then based? 16 rest
    else if c == 'o' || c == 'O' then based? 8 rest
    else if c == 'b' || c == 'B' then based? 2 rest
    else decimal? text
  | _ => decimal? text

end ScenarioCheck.Source.Numeral
