import ScenarioCheck.Text.Printable

/-! Quoted text: how a string is shown inside a message. -/
namespace ScenarioCheck.Text

def hexDigits (width n : Nat) : List Char :=
  let digits := Nat.toDigits 16 n
  List.replicate (width - digits.length) '0' ++ digits

def controlLetters : List (Char × Char) := [('\n', 'n'), ('\r', 'r'), ('\t', 't')]

def numericEscape (c : Char) : List Char :=
  if c.toNat < 0x100 then '\\' :: 'x' :: hexDigits 2 c.toNat
  else if c.toNat < 0x10000 then '\\' :: 'u' :: hexDigits 4 c.toNat
  else '\\' :: 'U' :: hexDigits 8 c.toNat

/-- A character between quotes: the backslash, the quote and the common controls have short
escapes, other characters that are not printable a numeric one. -/
def escape (quote : Char) (c : Char) : List Char :=
  if c = '\\' ∨ c = quote then ['\\', c]
  else match controlLetters.lookup c with
    | some letter => ['\\', letter]
    | none => if isPrintable c then [c] else numericEscape c

/-- The quote a text is shown in: the double one only if the text holds the single one and not
the double one. -/
def quoteFor (text : List Char) : Char :=
  if text.contains '\'' && !text.contains '"' then '"' else '\''

def quoted (text : String) : String :=
  let quote := quoteFor text.toList
  String.ofList (quote :: text.toList.flatMap (escape quote) ++ [quote])

end ScenarioCheck.Text
