import ScenarioCheck.Source.Parser.Capture

/-! Statements and modules. -/
namespace ScenarioCheck.Source.Parser

/-- The rules for statements: those for expressions and patterns, and blocks one level further
down. -/
structure BlockRules where
  expressions : Rules
  patterns : PatternRules
  block : Parser (List Stmt)

/-! ### Simple statements -/

def dottedName : Parser String := do
  let first ← name
  let rest ← whileAt (Lexeme.isMark ".") do
    advance
    name
  return ".".intercalate (first :: rest)

def asName? : Parser (Option String) := do
  if ← tryWord "as" then return some (← name) else return none

def startsName (l : Lexeme) : Bool := (nameOf? l).isSome

def strictly {α : Type} (item : Parser α) : Parser (List α) := do
  let first ← item
  let rest ← whileAt (Lexeme.isMark ",") do
    advance
    item
  return first :: rest

def importNames : Parser (List Alias) := strictly do
  let module ← dottedName
  return ⟨module, ← asName?⟩

def leadingDots : Parser Nat := do
  let counts ← whileAt (fun l => Lexeme.isMark "." l || Lexeme.isMark "..." l) do
    let three ← atMark "..."
    advance
    return if three then 3 else 1
  return counts.foldl (· + ·) 0

def importedName : Parser Alias := do
  let id ← name
  return ⟨id, ← asName?⟩

def importFrom (start : Position) : Parser Stmt := do
  let level ← leadingDots
  let module? ← if startsName (← peek) then do
      let m ← dottedName
      pure (some m)
    else pure none
  guard (level != 0 || module?.isSome)
  word "import"
  if ← tryMark "*" then return .importFrom start module? level [⟨"*", none⟩]
  else if ← tryMark "(" then
    let (names, _) ← commaSeparated startsName importedName
    mark ")"
    return .importFrom start module? level names
  else return .importFrom start module? level (← strictly importedName)

def augmentedOperators : List (String × BinaryOperator) := [
  ("+=", .add), ("-=", .subtract), ("*=", .multiply), ("@=", .matrixMultiply), ("/=", .divide),
  ("%=", .modulo), ("&=", .bitAnd), ("|=", .bitOr), ("^=", .bitXor), ("<<=", .shiftLeft),
  (">>=", .shiftRight), ("**=", .power), ("//=", .floorDivide)]

def assignedValues (r : Rules) : Parser (List Expr) := whileAt (Lexeme.isMark "=") do
  advance
  yieldOrExpressions r

def expressionStatement (r : Rules) : Parser Stmt := do
  let start ← here
  let first ← yieldOrExpressions r
  match ← peek with
  | .mark ":" => do
    guard (isSingleTarget first)
    advance
    let hint ← r.expression
    let value? ← if ← tryMark "=" then do
        let v ← yieldOrExpressions r
        pure (some v)
      else pure none
    return .annotated start first hint value?
  | .mark "=" => do
    let values ← assignedValues r
    let targets := first :: values.dropLast
    guard (targets.all isStarTarget)
    match values.getLast? with
    | some value => return .assign start targets value
    | none => failure
  | .mark m =>
    match augmentedOperators.lookup m with
    | some o => do
      guard (isSingleTarget first)
      advance
      return .augmented start first o (← yieldOrExpressions r)
    | none => return .expr start first
  | _ => return .expr start first

def deleteTargets (r : Rules) : Parser (List Expr) := do
  let (targets, _) ← commaSeparated startsExpression (bitOr r)
  guard (areDeletable targets)
  match ← peek with
  | .mark ";" | .newline => return targets
  | _ => failure

def simpleStatement (r : Rules) : Parser Stmt := do
  let start ← here
  if ← tryWord "pass" then return .pass start
  else if ← tryWord "break" then return .break start
  else if ← tryWord "continue" then return .continue start
  else if ← tryWord "return" then
    if startsStarred (← peek) then return .return start (some (← starExpressions r))
    else return .return start none
  else if ← tryWord "import" then return .import start (← importNames)
  else if ← tryWord "from" then importFrom start
  else if ← tryWord "raise" then
    if startsExpression (← peek) then
      let e ← r.expression
      if ← tryWord "from" then return .raise start (some e) (some (← r.expression))
      else return .raise start (some e) none
    else return .raise start none none
  else if ← tryWord "global" then return .global start (← strictly name)
  else if ← tryWord "nonlocal" then return .nonlocal start (← strictly name)
  else if ← tryWord "del" then return .delete start (← deleteTargets r)
  else if ← tryWord "assert" then
    let test ← r.expression
    if ← tryMark "," then return .assert start test (some (← r.expression))
    else return .assert start test none
  else expressionStatement r

def simpleLine (r : Rules) : Parser (List Stmt) := do
  let first ← simpleStatement r
  let rest ← loop ((← get).length)
  newline
  return first :: rest
where
  loop : Nat → Parser (List Stmt)
    | 0 => return []
    | fuel + 1 => do
      if ← tryMark ";" then
        match ← peek with
        | .newline => return []
        | _ => do
          let s ← simpleStatement r
          return s :: (← loop fuel)
      else return []

/-! ### Compound statements -/

/-- A colon and what belongs to it: the rest of the line or an indented block. -/
def suite (b : BlockRules) : Parser (List Stmt) := do
  mark ":"
  match ← peek with
  | .newline => do
    advance
    b.block
  | _ => simpleLine b.expressions

def elseSuite (b : BlockRules) : Parser (List Stmt) := do
  if ← tryWord "else" then suite b else return []

def conditional (b : BlockRules) : Nat → Position → Parser Stmt
  | 0, _ => failure
  | fuel + 1, start => do
    let test ← namedExpression b.expressions
    let body ← suite b
    let again ← here
    if ← tryWord "elif" then return .if start test body [← conditional b fuel again]
    else return .if start test body (← elseSuite b)

def forLoop (b : BlockRules) (start : Position) (isAsync : Bool) : Parser Stmt := do
  let target ← loopTargets b.expressions
  word "in"
  let source ← starExpressions b.expressions
  let body ← suite b
  return .for start isAsync target source body (← elseSuite b)

def whileLoop (b : BlockRules) (start : Position) : Parser Stmt := do
  let test ← namedExpression b.expressions
  let body ← suite b
  return .while start test body (← elseSuite b)

/-- A handler behind `except`. One with a star needs a type. -/
def handler (b : BlockRules) (start : Position) (starred : Bool) : Parser (Handler Stmt) := do
  if ← atMark ":" then
    guard (!starred)
    return ⟨start, none, none, ← suite b⟩
  else
    let type ← b.expressions.expression
    let name? ← if ← tryWord "as" then do
        let p ← here
        let id ← name
        pure (some (id, p))
      else pure none
    return ⟨start, some type, name?, ← suite b⟩

/-- The handlers of a `try`: all of them with a star or none. -/
def handlers (b : BlockRules) : Parser (List (Handler Stmt)) := do
  let all ← whileAt (Lexeme.isWord "except") do
    let start ← here
    advance
    let starred ← tryMark "*"
    return (starred, ← handler b start starred)
  guard (all.all (·.1) || all.all (!·.1))
  return all.map (·.2)

def tryStatement (b : BlockRules) (start : Position) : Parser Stmt := do
  let body ← suite b
  let hs ← handlers b
  let orelse ← if hs.isEmpty then pure [] else elseSuite b
  if ← tryWord "finally" then return .try start body hs orelse (← suite b)
  else
    guard (!hs.isEmpty)
    return .try start body hs orelse []

def resource (r : Rules) : Parser Resource := do
  let value ← r.expression
  if ← tryWord "as" then
    let target ← starredOr r (bitOr r)
    guard (isStarTarget target)
    return ⟨value, some target⟩
  else return ⟨value, none⟩

def parenthesizedResources (r : Rules) : Parser (List Resource) := do
  mark "("
  let (items, _) ← commaSeparated startsExpression (resource r)
  mark ")"
  guard (← atMark ":")
  return items

def withStatement (b : BlockRules) (start : Position) (isAsync : Bool) : Parser Stmt := do
  let items ← parenthesizedResources b.expressions <|> strictly (resource b.expressions)
  return .with start isAsync items (← suite b)

/-- The last line of the tokens taken between two states. -/
def lastLineTaken (before after : List Token) : Nat :=
  match before[before.length - after.length - 1]? with
  | some token => token.lastLine
  | none => 0

def decorators (r : Rules) : Parser (List Decorator) := whileAt (Lexeme.isMark "@") do
  advance
  let before ← get
  let value ← namedExpression r
  let after ← get
  newline
  return ⟨value, lastLineTaken before after⟩

def functionStatement (b : BlockRules) (start : Position) (isAsync : Bool)
    (ds : List Decorator) : Parser Stmt := do
  let id ← name
  mark "("
  let ps ← parameters b.expressions true ")"
  mark ")"
  let returns? ← if ← tryMark "->" then do
      let e ← b.expressions.expression
      pure (some e)
    else pure none
  return .function start isAsync id ps returns? ds (← suite b)

def classStatement (b : BlockRules) (start : Position) (ds : List Decorator) : Parser Stmt := do
  let id ← name
  let bracket ← here
  if ← tryMark "(" then
    let (bases, keywords) ← arguments b.expressions bracket
    guard (!bases.any (isGenerator bracket))
    return .class start id bases keywords ds (← suite b)
  else return .class start id [] [] ds (← suite b)
where
  /-- A generator without parentheses of its own is no base. -/
  isGenerator (bracket : Position) : Expr → Bool
    | .comprehension p .generator .. => p == bracket
    | _ => false

def matchCase (b : BlockRules) : Parser (Case Stmt) := do
  word "case"
  let captures ← casePattern b.patterns
  let guard? ← if ← tryWord "if" then do
      let e ← namedExpression b.expressions
      pure (some e)
    else pure none
  return ⟨captures, guard?, ← suite b⟩

/-- A `match` statement. The word is a name elsewhere. -/
def matchStatement (b : BlockRules) (start : Position) : Parser Stmt := do
  word "match"
  let here' ← here
  let (items, comma) ← commaSeparated startsStarred (displayItem b.expressions)
  let subject ← match items, comma with
    | [.starred ..], false => failure
    | [x], false => pure x
    | items, _ => pure (.tuple here' items)
  mark ":"
  newline
  match ← peek with
  | .indent => advance
  | _ => failure
  let cases ← whileAt (Lexeme.isWord "case") (matchCase b)
  guard (!cases.isEmpty)
  match ← peek with
  | .dedent => advance
  | _ => failure
  return .match start subject cases

def asyncStatement (b : BlockRules) (start : Position) : Parser Stmt := do
  if ← tryWord "def" then functionStatement b start true []
  else if ← tryWord "for" then forLoop b start true
  else
    word "with"
    withStatement b start true

def decorated (b : BlockRules) : Parser Stmt := do
  let ds ← decorators b.expressions
  let start ← here
  if ← tryWord "class" then classStatement b start ds
  else
    let isAsync ← tryWord "async"
    word "def"
    functionStatement b start isAsync ds

def statement (b : BlockRules) : Parser (List Stmt) := do
  let start ← here
  let one (p : Parser Stmt) : Parser (List Stmt) := do return [← p]
  match ← peek with
  | .word "if" => do
    advance
    one (conditional b ((← get).length) start)
  | .word "for" => do
    advance
    one (forLoop b start false)
  | .word "while" => do
    advance
    one (whileLoop b start)
  | .word "try" => do
    advance
    one (tryStatement b start)
  | .word "with" => do
    advance
    one (withStatement b start false)
  | .word "def" => do
    advance
    one (functionStatement b start false [])
  | .word "class" => do
    advance
    one (classStatement b start [])
  | .word "async" => do
    advance
    one (asyncStatement b start)
  | .word "match" => one (matchStatement b start) <|> simpleLine b.expressions
  | .mark "@" => one (decorated b)
  | _ => simpleLine b.expressions

def endsBlock : Lexeme → Bool
  | .dedent | .finish => true
  | _ => false

def statements (b : BlockRules) : Parser (List Stmt) := do
  let lines ← whileAt (fun l => !endsBlock l) (statement b)
  return lines.flatten

def block (b : BlockRules) : Parser (List Stmt) := do
  match ← peek with
  | .indent => advance
  | _ => failure
  let body ← statements b
  match ← peek with
  | .dedent => advance
  | _ => failure
  guard (!body.isEmpty)
  return body

def blockRules (r : Rules) (p : PatternRules) : Nat → BlockRules
  | 0 => ⟨r, p, failure⟩
  | n + 1 => ⟨r, p, block (blockRules r p n)⟩

/-- How deep rules can nest in a list of tokens. Expressions inside string literals count with
their characters. -/
def depthOf (tokens : List Token) : Nat :=
  tokens.foldl (fun n t => n + match t.lexeme with
    | .quotation q => 2 * q.body.length + 2
    | _ => 2) 4

def module? (named? : CharNames) (tokens : List Token) : Option (List Stmt) := do
  let depth := depthOf tokens
  let r := rules named? depth
  let (body, rest) ← (statements (blockRules r (patternRules r depth) (Lexer.maxIndents + 1))).run tokens
  match rest with
  | [⟨.finish, _, _⟩] => some body
  | _ => none

end ScenarioCheck.Source.Parser
