import ScenarioCheck.Source.Parser.Expression

/-! Patterns of `match` statements. A pattern is read for the names it binds. -/
namespace ScenarioCheck.Source.Parser

abbrev Captures := List (String × Position)

structure PatternRules where
  pattern : Parser Captures
  /-- Patterns between brackets. -/
  sequence : Parser Captures
  /-- Patterns between parentheses, or a pattern of its own. -/
  group : Parser Captures
  strings : Parser Expr

/-- A name that is bound; the underscore is not. -/
def captureTarget : Parser Captures := do
  let start ← here
  let id ← name
  guard (id != "_")
  match ← peek with
  | .mark "." | .mark "(" | .mark "=" => failure
  | _ => return [(id, start)]

def numberPattern : Parser Unit := do
  let _ ← tryMark "-"
  match ← peek with
  | .number c => do
    advance
    let signed := (← atMark "+") || (← atMark "-")
    if signed then
      guard (!isImaginary c)
      advance
      match ← peek with
      | .number d => do
        advance
        guard (isImaginary d)
      | _ => failure
    else return
  | _ => failure
where
  isImaginary : Constant → Bool
    | .imaginary _ => true
    | _ => false

/-- The names behind a first one, each behind a dot; tells whether there is one. -/
def dottedRest : Parser Bool := do
  let names ← whileAt (Lexeme.isMark ".") do
    advance
    name
  return !names.isEmpty

def startsPattern : Lexeme → Bool
  | .word text => !reserved.contains text || ["None", "True", "False"].contains text
  | .number _ | .quotation _ => true
  | .mark m => ["(", "[", "\x7b", "-", "*"].contains m
  | _ => false

/-- The arguments of a class pattern: positional ones before those with a name. -/
def classArguments (r : PatternRules) : Parser Captures := do
  if ← tryMark ")" then return []
  else
    let (items, _) ← commaSeparated startsPattern do
      match nameOf? (← peek), ← peekSecond with
      | some _, .mark "=" => do
        advance
        advance
        return (true, ← r.pattern)
      | _, _ => return (false, ← r.pattern)
    mark ")"
    let named := items.map (·.1)
    guard (named == (named.filter (!·)) ++ (named.filter id))
    return items.flatMap (·.2)

def mappingKey (r : PatternRules) : Parser Unit := do
  match ← peek with
  | .quotation _ => do
    let _ ← r.strings
  | .word "None" | .word "True" | .word "False" => advance
  | .word _ => do
    let _ ← name
    guard (← dottedRest)
  | _ => numberPattern

def startsMappingItem (l : Lexeme) : Bool :=
  Lexeme.isMark "**" l || (startsPattern l && !Lexeme.isMark "*" l)

/-- The items of a mapping pattern; the rest, if it is bound, comes last. -/
def mappingItems (r : PatternRules) : Parser Captures := do
  if ← tryMark "\x7d" then return []
  else
    let (items, _) ← commaSeparated startsMappingItem do
      if ← tryMark "**" then return (true, ← captureTarget)
      else
        mappingKey r
        mark ":"
        return (false, ← r.pattern)
    mark "\x7d"
    guard ((items.map (·.1)).dropLast.all (!·))
    return items.flatMap (·.2)

def closedPattern (r : PatternRules) : Parser Captures := do
  match ← peek with
  | .quotation _ => do
    let _ ← r.strings
    return []
  | .number _ | .mark "-" => do
    numberPattern
    return []
  | .word "None" | .word "True" | .word "False" => do
    advance
    return []
  | .word _ => do
    let start ← here
    let id ← name
    let dotted ← dottedRest
    if ← tryMark "(" then classArguments r
    else
      guard (!(← atMark "="))
      return if dotted || id == "_" then [] else [(id, start)]
  | .mark "(" => do
    advance
    if ← tryMark ")" then return []
    else
      let captures ← r.group
      mark ")"
      return captures
  | .mark "[" => do
    advance
    if ← tryMark "]" then return []
    else
      let captures ← r.sequence
      mark "]"
      return captures
  | .mark "\x7b" => do
    advance
    mappingItems r
  | _ => failure

def pattern (r : PatternRules) : Parser Captures := do
  let first ← closedPattern r
  let rest ← whileAt (Lexeme.isMark "|") do
    advance
    closedPattern r
  let captures := first ++ rest.flatten
  if ← tryWord "as" then return captures ++ (← captureTarget) else return captures

/-- An item of a sequence: a pattern, or a star with a name for the rest. Tells which. -/
def sequenceItem (r : PatternRules) : Parser (Bool × Captures) := do
  if ← tryMark "*" then
    let start ← here
    let id ← name
    return (true, if id == "_" then [] else [(id, start)])
  else return (false, ← pattern r)

def sequence (r : PatternRules) : Parser Captures := do
  let (items, _) ← commaSeparated startsPattern (sequenceItem r)
  return items.flatMap (·.2)

/-- Items between commas of which the first is a pattern of its own if there is no comma. -/
def casePattern (r : PatternRules) : Parser Captures := do
  let (items, comma) ← commaSeparated startsPattern (sequenceItem r)
  match items, comma with
  | [(true, _)], false => failure
  | items, _ => return items.flatMap (·.2)

def patternRules (r : Rules) : Nat → PatternRules
  | 0 => ⟨failure, failure, failure, failure⟩
  | n + 1 =>
    let p := patternRules r n
    ⟨pattern p, sequence p, casePattern p, strings r⟩

end ScenarioCheck.Source.Parser
