import ScenarioCheck.Source.Parser.Basic
import ScenarioCheck.Source.Template

/-! Expressions. -/
namespace ScenarioCheck.Source.Parser

def namedExpression (r : Rules) : Parser Expr := do
  let start ← here
  match nameOf? (← peek), ← peekSecond with
  | some id, .mark ":=" => do
    advance
    advance
    let value ← r.expression
    return .bind start (.name start id) value
  | _, _ => r.expression

/-! ### Operators -/

def operatorAt? (operators : List (String × BinaryOperator)) : Lexeme → Option BinaryOperator
  | .mark m => operators.lookup m
  | _ => none

def leftAssociative (operators : List (String × BinaryOperator)) (operand : Parser Expr) :
    Parser Expr := do
  let start ← here
  let first ← operand
  let pairs ← whileAt (fun l => (operatorAt? operators l).isSome) do
    match operatorAt? operators (← peek) with
    | some o => do
      advance
      return (o, ← operand)
    | none => failure
  return pairs.foldl (fun left (o, right) => .binary start o left right) first

def operatorLevels : List (List (String × BinaryOperator)) := [
  [("|", .bitOr)], [("^", .bitXor)], [("&", .bitAnd)],
  [("<<", .shiftLeft), (">>", .shiftRight)], [("+", .add), ("-", .subtract)],
  [("*", .multiply), ("/", .divide), ("//", .floorDivide), ("%", .modulo),
    ("@", .matrixMultiply)]]

def bitOr (r : Rules) : Parser Expr :=
  operatorLevels.foldr leftAssociative r.factor

def comparison? : Parser (Option Comparison) := do
  match ← peek, ← peekSecond with
  | .mark "==", _ => take 1 .equal
  | .mark "!=", _ => take 1 .notEqual
  | .mark "<", _ => take 1 .less
  | .mark "<=", _ => take 1 .lessEqual
  | .mark ">", _ => take 1 .greater
  | .mark ">=", _ => take 1 .greaterEqual
  | .word "in", _ => take 1 .isIn
  | .word "not", .word "in" => take 2 .notIn
  | .word "is", .word "not" => take 2 .isNot
  | .word "is", _ => take 1 .is
  | _, _ => return none
where
  take (n : Nat) (c : Comparison) : Parser (Option Comparison) := do
    modify (·.drop n)
    return some c

def startsComparison : Lexeme → Bool
  | .mark m => ["==", "!=", "<", "<=", ">", ">="].contains m
  | .word w => w == "in" || w == "not" || w == "is"
  | _ => false

def comparisonChain (operand : Parser Expr) : Parser Expr := do
  let start ← here
  let left ← operand
  if startsComparison (← peek) then
    let rest ← loop ((← get).length)
    return if rest.isEmpty then left else .compare start left rest
  else return left
where
  loop : Nat → Parser (List (Comparison × Expr))
    | 0 => return []
    | fuel + 1 => do
      match ← comparison? with
      | some c => do
        let right ← operand
        return (c, right) :: (← loop fuel)
      | none => return []

def inversion (r : Rules) : Parser Expr := do
  let start ← here
  if ← tryWord "not" then return .unary start .not (← r.inversion)
  else comparisonChain (bitOr r)

def booleanChain (o : BooleanOperator) (w : String) (operand : Parser Expr) : Parser Expr := do
  let start ← here
  let first ← operand
  let rest ← whileAt (Lexeme.isWord w) do
    advance
    operand
  if rest.isEmpty then return first else return .boolean start o (first :: rest)

def disjunction (r : Rules) : Parser Expr :=
  booleanChain .or "or" (booleanChain .and "and" (inversion r))

/-! ### Lists of expressions -/

def starredOr (r : Rules) (item : Parser Expr) : Parser Expr := do
  let start ← here
  if ← tryMark "*" then return .starred start (← bitOr r) else item

/-- Items between commas; a tuple if there is a comma. -/
def tupleOr (item : Parser Expr) : Parser Expr := do
  let start ← here
  let (items, comma) ← commaSeparated startsStarred item
  match items, comma with
  | [x], false => return x
  | items, _ => return .tuple start items

def starExpressions (r : Rules) : Parser Expr := tupleOr (starredOr r r.expression)

def displayItem (r : Rules) : Parser Expr := starredOr r (namedExpression r)

def yieldExpression (r : Rules) : Parser Expr := do
  let start ← here
  word "yield"
  if ← tryWord "from" then return .yieldFrom start (← r.expression)
  else if startsStarred (← peek) then return .yield start (some (← starExpressions r))
  else return .yield start none

def yieldOrExpressions (r : Rules) : Parser Expr := do
  if ← atWord "yield" then yieldExpression r else starExpressions r

/-! ### Targets -/

mutual

/-- An expression that can be assigned to. Stars are allowed inside displays. -/
def isTarget : Expr → Bool
  | .name .. | .attribute .. | .subscript .. => true
  | .tuple _ items | .list _ items => areTargets items
  | _ => false

def areTargets : List Expr → Bool
  | [] => true
  | .starred _ e :: rest => isTarget e && areTargets rest
  | e :: rest => isTarget e && areTargets rest

end

mutual

def isDeletable : Expr → Bool
  | .name .. | .attribute .. | .subscript .. => true
  | .tuple _ items | .list _ items => areDeletable items
  | _ => false

def areDeletable : List Expr → Bool
  | [] => true
  | e :: rest => isDeletable e && areDeletable rest

end

def isStarTarget : Expr → Bool
  | .starred _ e => isTarget e
  | e => isTarget e

def isSingleTarget : Expr → Bool
  | .name .. | .attribute .. | .subscript .. => true
  | _ => false

def loopTargets (r : Rules) : Parser Expr := do
  let target ← tupleOr (starredOr r (bitOr r))
  guard (isStarTarget target)
  return target

/-! ### Comprehensions -/

def atClause : Parser Bool := do
  match ← peek, ← peekSecond with
  | .word "for", _ => return true
  | .word "async", .word "for" => return true
  | _, _ => return false

def clauses (r : Rules) : Parser (List (Clause Expr)) := do
  if ← atClause then loop ((← get).length) else return []
where
  loop : Nat → Parser (List (Clause Expr))
    | 0 => return []
    | fuel + 1 => do
      if ← atClause then
        let isAsync ← tryWord "async"
        word "for"
        let target ← loopTargets r
        word "in"
        let source ← disjunction r
        let conditions ← whileAt (Lexeme.isWord "if") do
          advance
          disjunction r
        return ⟨isAsync, target, source, conditions⟩ :: (← loop fuel)
      else return []

def isStarred : Expr → Bool
  | .starred .. => true
  | _ => false

def clausesOf (r : Rules) (element : Expr) : Parser (List (Clause Expr)) := do
  guard (!isStarred element)
  clauses r

/-- After an opening parenthesis: a tuple, a generator or an expression of its own. -/
def parenthesized (r : Rules) (start : Position) : Parser Expr := do
  if ← tryMark ")" then return .tuple start []
  else if ← atWord "yield" then
    let e ← yieldExpression r
    mark ")"
    return e
  else
    let first ← displayItem r
    if ← atClause then
      let cs ← clausesOf r first
      mark ")"
      return .comprehension start .generator first cs
    else
      let (rest, comma) ← afterFirst startsStarred (displayItem r)
      mark ")"
      if comma then return .tuple start (first :: rest)
      else
        guard (!isStarred first)
        return first

def bracketed (r : Rules) (start : Position) : Parser Expr := do
  if ← tryMark "]" then return .list start []
  else
    let first ← displayItem r
    if ← atClause then
      let cs ← clausesOf r first
      mark "]"
      return .comprehension start .list first cs
    else
      let (rest, _) ← afterFirst startsStarred (displayItem r)
      mark "]"
      return .list start (first :: rest)

def entry (r : Rules) : Parser (Option Expr × Expr) := do
  if ← tryMark "**" then return (none, ← bitOr r)
  else
    let key ← r.expression
    mark ":"
    return (some key, ← r.expression)

def startsEntry (l : Lexeme) : Bool := Lexeme.isMark "**" l || startsExpression l

def braced (r : Rules) (start : Position) : Parser Expr := do
  if ← tryMark "\x7d" then return .dict start []
  else if ← atMark "**" then
    let (entries, _) ← commaSeparated startsEntry (entry r)
    mark "\x7d"
    return .dict start entries
  else
    let binds := Lexeme.isMark ":=" (← peekSecond)
    let first ← displayItem r
    if (← atMark ":") && !binds && !isStarred first then
      advance
      let value ← r.expression
      if ← atClause then
        let cs ← clauses r
        mark "\x7d"
        return .dictComprehension start first value cs
      else
        let (rest, _) ← afterFirst startsEntry (entry r)
        mark "\x7d"
        return .dict start ((some first, value) :: rest)
    else if ← atClause then
      let cs ← clausesOf r first
      mark "\x7d"
      return .comprehension start .set first cs
    else
      let (rest, _) ← afterFirst startsStarred (displayItem r)
      mark "\x7d"
      return .set start (first :: rest)

/-! ### String literals -/

/-- Fixed text in front of other parts; neighbouring texts are one part. -/
def consText (start : Position) (content : List Char) (parts : List Expr) : List Expr :=
  if content.isEmpty then parts
  else
    match parts with
    | .constant _ (.text s) :: rest => .constant start (.text (String.ofList content ++ s)) :: rest
    | parts => .constant start (.text (String.ofList content)) :: parts

mutual

def partsOf? (r : Rules) (start : Position) : List Piece → Option (List Expr)
  | [] => some []
  | piece :: rest => do
    let parts ← partsOf? r start rest
    addPiece? r start parts piece

def addPiece? (r : Rules) (start : Position) (parts : List Expr) : Piece → Option (List Expr)
  | .text content => some (consText start content parts)
  | .field position expression shown? conversion? format? => do
    let value ← r.embedded position expression
    let spec? ← match format? with
      | some pieces => (partsOf? r start pieces).map fun parts => some (.joined start parts)
      | none => some none
    let parts := .formatted start value conversion? spec? :: parts
    some (consText start (shown?.getD []) parts)

end

def literalParts? (r : Rules) (start : Position) (q : Quotation) : Option (List Expr) :=
  if q.isTemplate then (Template.ofQuotation? r.named? q).bind (partsOf? r start)
  else (Literal.text? r.named? q.isRaw q.body).map fun content => consText start content []

def joinParts : List Expr → List Expr → List Expr
  | [], parts => parts
  | [.constant p (.text s)], parts => consText p s.toList parts
  | part :: rest, parts => part :: joinParts rest parts

/-- Literals side by side: all of them bytes or none of them. One template makes all of them one. -/
def concatenated? (r : Rules) (start : Position) (qs : List Quotation) : Option Expr := do
  if qs.all (·.isBytes) then
    let bytes ← qs.mapM fun q => Literal.bytes? q.isRaw q.body
    some (.constant start (.bytes bytes.flatten))
  else if qs.any (·.isBytes) then none
  else
    let parts ← qs.mapM (literalParts? r start)
    let parts := parts.foldr joinParts []
    if qs.any (·.isTemplate) then some (.joined start parts)
    else
      match parts with
      | [] => some (.constant start (.text ""))
      | part :: _ => some part

def isQuotation : Lexeme → Bool
  | .quotation _ => true
  | _ => false

def strings (r : Rules) : Parser Expr := do
  let start ← here
  let qs ← whileAt isQuotation do
    match ← peek with
    | .quotation q => do
      advance
      return q
    | _ => failure
  match concatenated? r start qs with
  | some e => return e
  | none => failure

/-! ### Atoms, calls and subscripts -/

def atom (r : Rules) : Parser Expr := do
  let start ← here
  match ← peek with
  | .word "None" => do
    advance
    return .constant start .none
  | .word "True" => do
    advance
    return .constant start (.bool true)
  | .word "False" => do
    advance
    return .constant start (.bool false)
  | .word _ => return .name start (← name)
  | .number c => do
    advance
    return .constant start c
  | .quotation _ => strings r
  | .mark "..." => do
    advance
    return .constant start .ellipsis
  | .mark "(" => do
    advance
    parenthesized r start
  | .mark "[" => do
    advance
    bracketed r start
  | .mark "\x7b" => do
    advance
    braced r start
  | _ => failure

inductive Argument where
  | positional (e : Expr)
  | star (e : Expr)
  | keyword (k : Keyword Expr)
  | spread (k : Keyword Expr)

def argument (r : Rules) : Parser Argument := do
  let start ← here
  if ← tryMark "*" then return .star (.starred start (← r.expression))
  else if ← tryMark "**" then return .spread ⟨start, none, ← r.expression⟩
  else
    match nameOf? (← peek), ← peekSecond with
    | some id, .mark "=" => do
      advance
      advance
      return .keyword ⟨start, some id, ← r.expression⟩
    | _, _ => return .positional (← namedExpression r)

/-- The order of arguments: positional ones come before all keywords, and a star never comes after
a double one. -/
def inOrder (sawKeyword sawSpread : Bool) : List Argument → Bool
  | [] => true
  | .positional _ :: rest => !sawKeyword && !sawSpread && inOrder sawKeyword sawSpread rest
  | .star _ :: rest => !sawSpread && inOrder sawKeyword sawSpread rest
  | .keyword _ :: rest => inOrder true sawSpread rest
  | .spread _ :: rest => inOrder sawKeyword true rest

def Argument.plain? : Argument → Option Expr
  | positional e | star e => some e
  | _ => none

def Argument.keyword? : Argument → Option (Keyword Expr)
  | keyword k | spread k => some k
  | _ => none

def startsArgument (l : Lexeme) : Bool := Lexeme.isMark "**" l || startsStarred l

/-- The arguments after an opening parenthesis at `start`. A single generator needs no parentheses
of its own. -/
def arguments (r : Rules) (start : Position) : Parser (List Expr × List (Keyword Expr)) := do
  if ← tryMark ")" then return ([], [])
  else
    let first ← argument r
    match first, ← atClause with
    | .positional e, true => do
      let cs ← clauses r
      mark ")"
      return ([.comprehension start .generator e cs], [])
    | first, _ => do
      let (rest, _) ← afterFirst startsArgument (argument r)
      mark ")"
      let all := first :: rest
      guard (inOrder false false all)
      return (all.filterMap Argument.plain?, all.filterMap Argument.keyword?)

def indexItem (r : Rules) : Parser Expr := do
  let start ← here
  if ← tryMark "*" then return .starred start (← bitOr r)
  else
    let bound : Parser (Option Expr) := do
      if startsExpression (← peek) then return some (← r.expression) else return none
    if ← atMark ":" then sliceFrom start none bound
    else
      let binds := Lexeme.isMark ":=" (← peekSecond)
      let e ← namedExpression r
      if (← atMark ":") && !binds then sliceFrom start (some e) bound else return e
where
  sliceFrom (start : Position) (lower? : Option Expr) (bound : Parser (Option Expr)) :
      Parser Expr := do
    mark ":"
    let upper? ← bound
    let step? ← if ← tryMark ":" then bound else pure none
    return .slice start lower? upper? step?

def startsIndex (l : Lexeme) : Bool := Lexeme.isMark ":" l || startsStarred l

/-- The index of a subscript; several make a tuple. -/
def indices (r : Rules) : Parser Expr := do
  let start ← here
  let (items, comma) ← commaSeparated startsIndex (indexItem r)
  match items, comma with
  | [.starred p e], false => return .tuple start [.starred p e]
  | [x], false => return x
  | items, _ => return .tuple start items

def startsTrailer : Lexeme → Bool
  | .mark m => m == "." || m == "(" || m == "["
  | _ => false

def primary (r : Rules) : Parser Expr := do
  let start ← here
  let e ← atom r
  if startsTrailer (← peek) then loop start e ((← get).length) else return e
where
  loop (start : Position) (e : Expr) : Nat → Parser Expr
    | 0 => return e
    | fuel + 1 => do
      let bracket ← here
      if ← tryMark "." then loop start (.attribute start e (← name)) fuel
      else if ← tryMark "(" then
        let (args, keywords) ← arguments r bracket
        loop start (.call start e args keywords) fuel
      else if ← tryMark "[" then
        let index ← indices r
        mark "]"
        loop start (.subscript start e index) fuel
      else return e

def awaited (r : Rules) : Parser Expr := do
  let start ← here
  if ← tryWord "await" then return .await start (← primary r) else primary r

/-- Signs and powers: a power binds tighter than the sign in front of it and looser than the one
behind it. -/
def factor (r : Rules) : Parser Expr := do
  let start ← here
  if ← tryMark "+" then return .unary start .plus (← r.factor)
  else if ← tryMark "-" then return .unary start .minus (← r.factor)
  else if ← tryMark "~" then return .unary start .invert (← r.factor)
  else
    let base ← awaited r
    if ← tryMark "**" then return .binary start .power base (← r.factor) else return base

/-! ### Parameters and lambdas -/

structure ParameterState where
  sawDefault : Bool := false
  sawSlash : Bool := false
  /-- A star alone was read, and a name has to follow. -/
  needsName : Bool := false
  /-- A star was read, so parameters are passed by keyword. -/
  byKeyword : Bool := false
  sawKeywords : Bool := false
  parameters : Parameters Expr := {}

def parameter (r : Rules) (annotated mayDefault starHint : Bool) :
    Parser (Parameter Expr) := do
  let start ← here
  let id ← name
  let hint? ←
    if annotated && (← atMark ":") then do
      advance
      let e ← if starHint then starredOr r r.expression else r.expression
      pure (some e)
    else pure none
  let default? ←
    if mayDefault && (← tryMark "=") then do
      let e ← r.expression
      pure (some e)
    else pure none
  return ⟨start, id, hint?, default?⟩

def parameterItem (r : Rules) (annotated : Bool) (s : ParameterState) : Parser ParameterState := do
  guard (!s.sawKeywords)
  let ps := s.parameters
  if ← tryMark "/" then
    guard (!s.sawSlash && !s.byKeyword && !ps.positional.isEmpty)
    return { s with
      sawSlash := true, parameters := { ps with positionalOnly := ps.positional, positional := [] } }
  else if ← tryMark "**" then
    guard (!s.needsName)
    let p ← parameter r annotated false false
    return { s with sawKeywords := true, parameters := { ps with keywords? := some p } }
  else if ← tryMark "*" then
    guard (!s.byKeyword)
    if ← atMark "," then return { s with byKeyword := true, needsName := true }
    else
      let p ← parameter r annotated false true
      return { s with byKeyword := true, parameters := { ps with rest? := some p } }
  else
    let p ← parameter r annotated true false
    if s.byKeyword then
      return { s with
        needsName := false, parameters := { ps with keywordOnly := ps.keywordOnly ++ [p] } }
    else
      guard (p.default?.isSome || !s.sawDefault)
      return { s with
        sawDefault := p.default?.isSome, parameters := { ps with positional := ps.positional ++ [p] } }

def parameters (r : Rules) (annotated : Bool) (close : String) : Parser (Parameters Expr) := do
  loop {} ((← get).length)
where
  loop (s : ParameterState) : Nat → Parser (Parameters Expr)
    | 0 => failure
    | fuel + 1 => do
      if ← atMark close then
        guard (!s.needsName)
        return s.parameters
      else
        let s ← parameterItem r annotated s
        if ← tryMark "," then loop s fuel
        else
          guard (← atMark close)
          guard (!s.needsName)
          return s.parameters

def expression (r : Rules) : Parser Expr := do
  let start ← here
  if ← tryWord "lambda" then
    let ps ← parameters r false ":"
    mark ":"
    return .lambda start ps (← r.expression)
  else
    let value ← disjunction r
    if ← tryWord "if" then
      let test ← disjunction r
      word "else"
      return .conditional start test value (← r.expression)
    else return value

/-- An expression cut out of a string literal: all its tokens have to be used. -/
def embedded? (r : Rules) (position : Position) (text : List Char) : Option Expr := do
  let tokens ← Lexer.embedded? position text
  let (e, rest) ← (starExpressions r).run tokens
  match rest with
  | [⟨.finish, _, _⟩] => some e
  | _ => none

def rules (named? : CharNames) : Nat → Rules
  | 0 => ⟨failure, failure, failure, fun _ _ => none, named?⟩
  | n + 1 =>
    let r := rules named? n
    ⟨expression r, inversion r, factor r, embedded? r, named?⟩

end ScenarioCheck.Source.Parser
