import ScenarioCheck.Toml.Value

/-! Numbers, dates and times. Each is read as far as it reaches; what follows is for others to
judge. -/
namespace ScenarioCheck.Toml

def isDigitOf (base : Nat) (c : Char) : Bool :=
  if base = 16 then c.isDigit || ('a' ≤ c && c ≤ 'f') || ('A' ≤ c && c ≤ 'F')
  else c.isDigit && c.toNat - '0'.toNat < base

/-- What is left after further digits, each of which may follow one underscore. -/
def afterMoreDigits (base : Nat) : List Char → List Char
  | '_' :: c :: rest =>
    if isDigitOf base c then afterMoreDigits base rest else '_' :: c :: rest
  | c :: rest => if isDigitOf base c then afterMoreDigits base rest else c :: rest
  | [] => []

def afterDigits? (base : Nat) : List Char → Option (List Char)
  | c :: rest => if isDigitOf base c then some (afterMoreDigits base rest) else none
  | [] => none

def afterBased? : List Char → Option (List Char)
  | '0' :: 'x' :: rest => afterDigits? 16 rest
  | '0' :: 'b' :: rest => afterDigits? 2 rest
  | '0' :: 'o' :: rest => afterDigits? 8 rest
  | _ => none

def afterSign : List Char → List Char
  | '+' :: rest | '-' :: rest => rest
  | rest => rest

def afterWhole? : List Char → Option (List Char)
  | '0' :: rest => some rest
  | start => afterDigits? 10 start

def afterFraction : List Char → List Char
  | '.' :: rest => (afterDigits? 10 rest).getD ('.' :: rest)
  | rest => rest

def afterExponent : List Char → List Char
  | 'e' :: rest => (afterDigits? 10 (afterSign rest)).getD ('e' :: rest)
  | 'E' :: rest => (afterDigits? 10 (afterSign rest)).getD ('E' :: rest)
  | rest => rest

/-- Infinity and what is no number, with or without a sign. -/
def special? (text : List Char) : Option (List Char) :=
  match afterSign text with
  | 'i' :: 'n' :: 'f' :: rest | 'n' :: 'a' :: 'n' :: rest => some rest
  | _ => none

def number? (text : List Char) : Option (Toml × List Char) :=
  match afterBased? text with
  | some rest => some (.integer, rest)
  | none =>
    match afterWhole? (afterSign text) with
    | some rest =>
      let after := afterExponent (afterFraction rest)
      some (if after.length = rest.length then .integer else .float, after)
    | none => (special? text).map fun rest => (.float, rest)

def fixed? (count : Nat) (text : List Char) : Option (Nat × List Char) :=
  let digits := text.take count
  if digits.length = count && digits.all Char.isDigit then
    some (digits.foldl (fun n c => 10 * n + (c.toNat - '0'.toNat)) 0, text.drop count)
  else none

def bounded? (low high : Nat) (text : List Char) : Option (Nat × List Char) :=
  match fixed? 2 text with
  | some (n, rest) => if low ≤ n && n ≤ high then some (n, rest) else none
  | none => none

def expect? (c : Char) : List Char → Option (List Char)
  | d :: rest => if c = d then some rest else none
  | [] => none

def afterTime? (text : List Char) : Option (List Char) := do
  let (_, rest) ← bounded? 0 23 text
  let rest ← expect? ':' rest
  let (_, rest) ← bounded? 0 59 rest
  let rest ← expect? ':' rest
  let (_, rest) ← bounded? 0 59 rest
  match rest with
  | '.' :: c :: more => return if c.isDigit then more.dropWhile Char.isDigit else rest
  | _ => return rest

def afterOffset (text : List Char) : List Char :=
  match text with
  | 'Z' :: rest | 'z' :: rest => rest
  | '+' :: rest | '-' :: rest =>
    ((do
      let (_, rest) ← bounded? 0 23 rest
      let rest ← expect? ':' rest
      let (_, rest) ← bounded? 0 59 rest
      return rest) : Option (List Char)).getD text
  | _ => text

/-- Every fourth year is a leap year, of whole centuries only every fourth. -/
def isLeap (year : Nat) : Bool := year % 4 = 0 && (year % 100 ≠ 0 || year % 400 = 0)

def daysIn (year month : Nat) : Nat :=
  if month = 2 then if isLeap year then 29 else 28
  else if month = 4 || month = 6 || month = 9 || month = 11 then 30 else 31

inductive Moment where
  | none
  | invalid
  | found (value : Toml) (rest : List Char)

def moment? (text : List Char) : Moment :=
  let date? : Option ((Nat × Nat × Nat) × List Char) := do
    let (year, rest) ← fixed? 4 text
    let rest ← expect? '-' rest
    let (month, rest) ← bounded? 1 12 rest
    let rest ← expect? '-' rest
    let (day, rest) ← bounded? 1 31 rest
    return ((year, month, day), rest)
  match date? with
  | .none => .none
  | .some ((year, month, day), rest) =>
    if year = 0 || day > daysIn year month then .invalid
    else
      let time? := match rest with
        | 'T' :: more | 't' :: more | ' ' :: more => afterTime? more
        | _ => .none
      match time? with
      | .some after => .found .moment (afterOffset after)
      | .none => .found .date rest

def scalar? (text : List Char) : Option (Toml × List Char) :=
  match moment? text with
  | .invalid => none
  | .found value rest => some (value, rest)
  | .none => match afterTime? text with
    | some rest => some (.time, rest)
    | none => number? text

end ScenarioCheck.Toml
