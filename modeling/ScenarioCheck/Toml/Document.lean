import ScenarioCheck.Toml.Quoted
import ScenarioCheck.Toml.Scalar

/-! TOML documents. A table is opened by its header or by dotted keys, once; what stands within
brackets or braces is closed for good. -/
namespace ScenarioCheck.Toml

def isBareKeyChar (c : Char) : Bool := c.isAlphanum || c == '-' || c == '_'

def skipBlanks (text : List Char) : List Char := text.dropWhile isBlank

def keyPart? (text : List Char) : Option (String × List Char) :=
  match text.takeWhile isBareKeyChar with
  | [] => line? text
  | part => some (String.ofList part, text.dropWhile isBareKeyChar)

/-- The parts of a key with dots between them; blanks around them do not matter. -/
def key? : Nat → List Char → Option (List String × List Char)
  | 0, _ => none
  | fuel + 1, text => do
    let (part, rest) ← keyPart? text
    match skipBlanks rest with
    | '.' :: more => do
      let (parts, left) ← key? fuel (skipBlanks more)
      return (part :: parts, left)
    | left => return ([part], left)

def afterComment? : List Char → Option (List Char)
  | '#' :: rest =>
    if (rest.takeWhile (· != '\n')).any isIllegal then none
    else some (rest.dropWhile (· != '\n'))
  | start => some start

def afterGap? : Nat → List Char → Option (List Char)
  | 0, _ => none
  | fuel + 1, text => do
    let left ← afterComment? (text.dropWhile isBlankOrBreak)
    if left.length = text.length then return left else afterGap? fuel left

abbrev Assigned := (List String × Toml) × List Char

def addInline (key : List String) (value : Toml) (members : Members) : Option Members :=
  match key.getLast? with
  | none => none
  | some last => changeAt false (addMember last value) key.dropLast members

/-- What closes itself to further keys. -/
def isClosed : Toml → Bool
  | .array _ | .table _ => true
  | _ => false

mutual

def value? : Nat → List Char → Option (Toml × List Char)
  | 0, _ => none
  | fuel + 1, text =>
    match text with
    | '"' :: _ | '\'' :: _ => (quoted? text).map fun r => (.string r.1, r.2)
    | 't' :: 'r' :: 'u' :: 'e' :: rest => some (.bool true, rest)
    | 'f' :: 'a' :: 'l' :: 's' :: 'e' :: rest => some (.bool false, rest)
    | '[' :: rest => do
      let (items, left) ← items? fuel (← afterGap? (rest.length + 1) rest)
      return (.array items, left)
    | '{' :: rest => do
      let (members, left) ← match skipBlanks rest with
        | '}' :: left => some ([], left)
        | left => members? fuel [] [] left
      return (.table members, left)
    | _ => scalar? text

/-- The items of an array up to its end; a comma may follow the last one. -/
def items? : Nat → List Char → Option (List Toml × List Char)
  | 0, _ => none
  | fuel + 1, text =>
    match text with
    | ']' :: rest => some ([], rest)
    | _ => do
      let (item, rest) ← value? fuel text
      match ← afterGap? (rest.length + 1) rest with
      | ']' :: left => return ([item], left)
      | ',' :: left => do
        let (items, left) ← items? fuel (← afterGap? (left.length + 1) left)
        return (item :: items, left)
      | _ => none

/-- The members of a table within braces up to its end; keys that lead into a closed value are
refused. -/
def members? : Nat → List (List String) → Members → List Char → Option (Members × List Char)
  | 0, _, _, _ => none
  | fuel + 1, closed, members, text => do
    let ((key, value), rest) ← assigned? fuel text
    if closed.any (·.isPrefixOf key) then none
    else
      let members ← addInline key value members
      match skipBlanks rest with
      | '}' :: left => return (members, left)
      | ',' :: left =>
        members? fuel (if isClosed value then key :: closed else closed) members (skipBlanks left)
      | _ => none

def assigned? : Nat → List Char → Option Assigned
  | 0, _ => none
  | fuel + 1, text => do
    let (key, rest) ← key? (text.length + 1) text
    match rest with
    | '=' :: rest => do
      let (value, left) ← value? fuel (skipBlanks rest)
      return ((key, value), left)
    | _ => none

end

/-- A document under reading: the table that is open, what is closed for good, what was opened by a
header, and what will count as opened when the next header comes. -/
structure Reading where
  members : Members := []
  header : List String := []
  closed : List (List String) := []
  opened : List (List String) := []
  pending : List (List String) := []

namespace Reading

def isClosed (r : Reading) (key : List String) : Bool :=
  !key.isEmpty && r.closed.any (·.isPrefixOf key)

/-- Before a header, what dotted keys opened counts as opened. -/
def settled (r : Reading) : Reading := { r with opened := r.opened ++ r.pending, pending := [] }

def openTable? (r : Reading) (key : List String) : Option Reading :=
  if r.opened.contains key || r.isClosed key then none
  else (changeAt true some key r.members).map fun members =>
    { r with members, header := key, opened := key :: r.opened }

/-- Opens a further table of an array by its header; the tables below it may be opened again. -/
def openItem? (r : Reading) (key : List String) : Option Reading :=
  match key.getLast? with
  | none => none
  | some last =>
    if r.isClosed key then none
    else (changeAt true (addTable last) key.dropLast r.members).map fun members =>
      { r with
        members
        header := key
        opened := key :: r.opened.filter (!key.isPrefixOf ·)
        closed := r.closed.filter (!key.isPrefixOf ·) }

def assign? (r : Reading) (key : List String) (value : Toml) : Option Reading :=
  let way := (List.range key.length).drop 1 |>.map fun n => r.header ++ key.take n
  let parent := r.header ++ key.dropLast
  match key.getLast? with
  | none => none
  | some last =>
    if way.any (r.opened.contains ·) || r.isClosed parent then none
    else (changeAt true (addMember last value) parent r.members).map fun members =>
      { r with
        members
        pending := r.pending ++ way
        closed := if Toml.isClosed value then (r.header ++ key) :: r.closed else r.closed }

end Reading

def statement? (r : Reading) (text : List Char) : Option (Reading × List Char) :=
  match text with
  | '[' :: '[' :: rest => do
    let (key, left) ← key? (rest.length + 1) (skipBlanks rest)
    let r ← r.settled.openItem? key
    match left with
    | ']' :: ']' :: left => return (r, left)
    | _ => none
  | '[' :: rest => do
    let (key, left) ← key? (rest.length + 1) (skipBlanks rest)
    let r ← r.settled.openTable? key
    match left with
    | ']' :: left => return (r, left)
    | _ => none
  | '#' :: _ => some (r, text)
  | _ => do
    let ((key, value), left) ← assigned? (2 * text.length + 2) text
    return (← r.assign? key value, left)

def statements? : Nat → Reading → List Char → Option Reading
  | 0, _, _ => none
  | fuel + 1, r, text =>
    match skipBlanks text with
    | [] => some r
    | '\n' :: rest => statements? fuel r rest
    | start => do
      let (r, left) ← statement? r start
      match ← afterComment? (skipBlanks left) with
      | [] => return r
      | '\n' :: rest => statements? fuel r rest
      | _ => none

/-- A carriage return directly before a line feed does not count. -/
def joinBreaks : List Char → List Char
  | '\r' :: '\n' :: rest => '\n' :: joinBreaks rest
  | c :: rest => c :: joinBreaks rest
  | [] => []

def ofText? (text : String) : Option Members :=
  let text := joinBreaks text.toList
  (statements? (text.length + 1) {} text).map (·.members)

end ScenarioCheck.Toml
