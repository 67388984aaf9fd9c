/-! Quoted texts: between double quotes with escapes, between single quotes as they stand; between
three quotes over several lines. -/
namespace ScenarioCheck.Toml

def isBlank (c : Char) : Bool := c == ' ' || c == '\t'

def isBlankOrBreak (c : Char) : Bool := isBlank c || c == '\n'

/-- Controls are not allowed, but for tabs. -/
def isIllegal (c : Char) : Bool := (c.toNat < 32 && c != '\t') || c.toNat == 127

def isIllegalIn (isMultiline : Bool) (c : Char) : Bool :=
  isIllegal c && !(isMultiline && c == '\n')

def hexNumber? (digits : List Char) : Option Nat :=
  digits.foldlM (fun n c =>
    if c.isDigit then some (16 * n + (c.toNat - '0'.toNat))
    else if 'a' ≤ c && c ≤ 'f' then some (16 * n + (c.toNat - 'a'.toNat + 10))
    else if 'A' ≤ c && c ≤ 'F' then some (16 * n + (c.toNat - 'A'.toNat + 10))
    else none) 0

def hexChar? (count : Nat) (text : List Char) : Option (List Char × List Char) := do
  let digits := text.take count
  if digits.length ≠ count then none
  else
    let n ← hexNumber? digits
    if n < 0xD800 || (0xDFFF < n && n < 0x110000) then
      return ([Char.ofNat n], text.drop count)
    else none

/-- What follows a backslash: the characters it stands for, and what is left. At the end of a line
it takes all blanks and breaks with it. -/
def escape? (isMultiline : Bool) (text : List Char) : Option (List Char × List Char) :=
  match text with
  | 'u' :: rest => hexChar? 4 rest
  | 'U' :: rest => hexChar? 8 rest
  | 'b' :: rest => some (['\x08'], rest)
  | 't' :: rest => some (['\t'], rest)
  | 'n' :: rest => some (['\n'], rest)
  | 'f' :: rest => some (['\x0c'], rest)
  | 'r' :: rest => some (['\r'], rest)
  | '"' :: rest => some (['"'], rest)
  | '\\' :: rest => some (['\\'], rest)
  | c :: _ =>
    if isMultiline && isBlankOrBreak c then
      match text.dropWhile isBlank with
      | [] => some ([], [])
      | '\n' :: rest => some ([], rest.dropWhile isBlankOrBreak)
      | _ => none
    else none
  | [] => none

/-- The text up to the closing quotes, collected backwards, and what is left after them. -/
def basic? (isMultiline : Bool) : Nat → List Char → List Char → Option (List Char × List Char)
  | 0, _, _ => none
  | fuel + 1, out, text =>
    match text with
    | [] => none
    | '"' :: rest =>
      if !isMultiline then some (out, rest)
      else match rest with
        | '"' :: '"' :: after => some (out, after)
        | _ => basic? isMultiline fuel ('"' :: out) rest
    | '\\' :: rest => do
      let (chars, rest) ← escape? isMultiline rest
      basic? isMultiline fuel (chars.reverse ++ out) rest
    | c :: rest =>
      if isIllegalIn isMultiline c then none else basic? isMultiline fuel (c :: out) rest

/-- The text up to the closing quotes as it stands, collected backwards, and what is left. -/
def literal? (isMultiline : Bool) (out : List Char) : List Char → Option (List Char × List Char)
  | [] => none
  | '\'' :: rest =>
    if !isMultiline then some (out, rest)
    else match rest with
      | '\'' :: '\'' :: after => some (out, after)
      | _ => literal? isMultiline ('\'' :: out) rest
  | c :: rest =>
    if isIllegalIn isMultiline c then none else literal? isMultiline (c :: out) rest

/-- Up to two more quotes directly after three closing ones belong to the text. -/
def moreQuotes (quote : Char) (out : List Char) : List Char → List Char × List Char
  | c :: d :: rest =>
    if c ≠ quote then (out, c :: d :: rest)
    else if d ≠ quote then (quote :: out, d :: rest)
    else (quote :: quote :: out, rest)
  | [c] => if c = quote then (quote :: out, []) else (out, [c])
  | [] => (out, [])

/-- A break directly after three opening quotes does not count. -/
def dropBreak : List Char → List Char
  | '\n' :: rest => rest
  | rest => rest

def line? : List Char → Option (String × List Char)
  | '"' :: rest =>
    (basic? false (rest.length + 1) [] rest).map fun r => (String.ofList r.1.reverse, r.2)
  | '\'' :: rest => (literal? false [] rest).map fun r => (String.ofList r.1.reverse, r.2)
  | _ => none

def quoted? : List Char → Option (String × List Char)
  | '"' :: '"' :: '"' :: rest =>
    (basic? true (rest.length + 1) [] (dropBreak rest)).map fun r =>
      let (out, left) := moreQuotes '"' r.1 r.2
      (String.ofList out.reverse, left)
  | '\'' :: '\'' :: '\'' :: rest =>
    (literal? true [] (dropBreak rest)).map fun r =>
      let (out, left) := moreQuotes '\'' r.1 r.2
      (String.ofList out.reverse, left)
  | start => line? start

end ScenarioCheck.Toml
