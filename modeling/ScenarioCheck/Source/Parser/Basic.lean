import ScenarioCheck.Source.Literal

/-! Parsers over the tokens of a module. A parser fails or takes tokens from the front. Recursion
goes through a record of rules, one level per nesting of brackets, operators or blocks. -/
namespace ScenarioCheck.Source

/-- A parser: what it reads and the tokens it leaves. -/
abbrev Parser := StateT (List Token) Option

namespace Parser

def peek : Parser Lexeme := do
  match ← get with
  | token :: _ => return token.lexeme
  | [] => return .finish

def peekSecond : Parser Lexeme := do
  match ← get with
  | _ :: token :: _ => return token.lexeme
  | _ => return .finish

def here : Parser Position := do
  match ← get with
  | token :: _ => return token.position
  | [] => failure

def advance : Parser Unit := modify (·.drop 1)

def atMark (m : String) : Parser Bool := return Lexeme.isMark m (← peek)

def atWord (w : String) : Parser Bool := return Lexeme.isWord w (← peek)

def tryMark (m : String) : Parser Bool := do
  if ← atMark m then
    advance
    return true
  else return false

def tryWord (w : String) : Parser Bool := do
  if ← atWord w then
    advance
    return true
  else return false

def mark (m : String) : Parser Unit := do
  guard (← tryMark m)

def word (w : String) : Parser Unit := do
  guard (← tryWord w)

def nameOf? : Lexeme → Option String
  | .word text => if reserved.contains text then none else some text
  | _ => none

def name : Parser String := do
  match nameOf? (← peek) with
  | some text => do
    advance
    return text
  | none => failure

def newline : Parser Unit := do
  match ← peek with
  | .newline => advance
  | _ => failure

/-- Repeats a parser as long as a test of the next lexeme holds, at most once per token. -/
def whileAt {α : Type} (test : Lexeme → Bool) (item : Parser α) : Parser (List α) := do
  if test (← peek) then loop ((← get).length) else return []
where
  loop : Nat → Parser (List α)
    | 0 => return []
    | fuel + 1 => do
      if test (← peek) then
        let x ← item
        let xs ← loop fuel
        return x :: xs
      else return []

/-- Items between commas, after a first one; tells whether there was a comma. A comma may end the
list if what follows cannot start an item. -/
def afterFirst {α : Type} (starts : Lexeme → Bool) (item : Parser α) : Parser (List α × Bool) := do
  if ← atMark "," then loop ((← get).length) else return ([], false)
where
  loop : Nat → Parser (List α × Bool)
    | 0 => return ([], false)
    | fuel + 1 => do
      if ← tryMark "," then
        if starts (← peek) then
          let x ← item
          let (xs, _) ← loop fuel
          return (x :: xs, true)
        else return ([], true)
      else return ([], false)

def commaSeparated {α : Type} (starts : Lexeme → Bool) (item : Parser α) :
    Parser (List α × Bool) := do
  let x ← item
  let (xs, comma) ← afterFirst starts item
  return (x :: xs, comma)

def expressionWords : List String := ["None", "True", "False", "not", "lambda", "await"]

def startsExpression : Lexeme → Bool
  | .word text => !reserved.contains text || expressionWords.contains text
  | .number _ | .quotation _ => true
  | .mark m => ["(", "[", "\x7b", "-", "+", "~", "..."].contains m
  | _ => false

def startsStarred (l : Lexeme) : Bool := Lexeme.isMark "*" l || startsExpression l

end Parser

structure Rules where
  expression : Parser Expr
  inversion : Parser Expr
  factor : Parser Expr
  /-- An expression cut out of a string literal, with the position of its opening brace. -/
  embedded : Position → List Char → Option Expr
  named? : CharNames

end ScenarioCheck.Source
