import ScenarioCheck.Number.Shortest
import ScenarioCheck.Source.Syntax
import ScenarioCheck.Text.Quoted

/-! The text of an expression in one normal form: single blanks around operators, parentheses only
where precedence needs them, literals as values are shown. -/
namespace ScenarioCheck.Source

namespace UnaryOperator

def sign : UnaryOperator → String
  | plus => "+"
  | minus => "-"
  | invert => "~"
  | not => "not "

end UnaryOperator

namespace BinaryOperator

def sign : BinaryOperator → String
  | add => "+"
  | subtract => "-"
  | multiply => "*"
  | matrixMultiply => "@"
  | divide => "/"
  | modulo => "%"
  | power => "**"
  | shiftLeft => "<<"
  | shiftRight => ">>"
  | bitOr => "|"
  | bitXor => "^"
  | bitAnd => "&"
  | floorDivide => "//"

/-- The sign with the blanks around it: a power has none. -/
def spaced (o : BinaryOperator) : String := if o == power then "**" else " " ++ o.sign ++ " "

def precedence : BinaryOperator → Nat
  | bitOr => 6
  | bitXor => 7
  | bitAnd => 8
  | shiftLeft | shiftRight => 9
  | add | subtract => 10
  | multiply | matrixMultiply | divide | modulo | floorDivide => 11
  | power => 13

end BinaryOperator

def BooleanOperator.sign : BooleanOperator → String
  | .and => "and"
  | .or => "or"

def BooleanOperator.precedence : BooleanOperator → Nat
  | .or => 2
  | .and => 3

def Comparison.sign : Comparison → String
  | .equal => "=="
  | .notEqual => "!="
  | .less => "<"
  | .lessEqual => "<="
  | .greater => ">"
  | .greaterEqual => ">="
  | .is => "is"
  | .isNot => "is not"
  | .isIn => "in"
  | .notIn => "not in"

def Expr.precedence : Expr → Nat
  | .lambda .. => 0
  | .conditional .. => 1
  | .boolean _ o _ => o.precedence
  | .unary _ .not _ => 4
  | .compare .. => 5
  | .binary _ o .. => o.precedence
  | .unary .. => 12
  | .await .. => 14
  | _ => 15

/-- Operators of one precedence group from the left, but for powers and alternatives. -/
def Expr.groupsLeft : Expr → Bool
  | .binary _ .power .. => false
  | .conditional .. => false
  | _ => true

/-- An operand needs parentheses if it binds looser, or equally on the side where its operator does
not group. -/
def Expr.wraps (e child : Expr) (isLeft : Bool) : Bool :=
  child.precedence < e.precedence ||
    (child.precedence == e.precedence && isLeft != e.groupsLeft)

def bytesText (content : List Nat) : String :=
  let chars := content.map Char.ofNat
  let quote := Text.quoteFor chars
  let escape (c : Char) : List Char :=
    if 0x7F ≤ c.toNat then '\\' :: 'x' :: Text.hexDigits 2 c.toNat else Text.escape quote c
  String.ofList ('b' :: quote :: chars.flatMap escape ++ [quote])

/-- A literal value as values are shown, integers of any length: the limit that an interpreter may set
on their digits is left out. -/
def Constant.shown : Constant → String
  | .none => "None"
  | .ellipsis => "..."
  | .bool b => if b then "True" else "False"
  | .int n => toString n
  | .float x => x.shown
  | .imaginary x => x.write Number.Double.imaginaryStyle ++ "j"
  | .text s => Text.quoted s
  | .bytes content => bytesText content

/-- Text between the quotes of a template: escaped, with braces doubled. -/
def templateText (s : String) : List Char :=
  let quote := Text.quoteFor s.toList
  (s.toList.flatMap (Text.escape quote)).flatMap fun c =>
    if c = '{' ∨ c = '}' then [c, c] else [c]

def occursIn (part : List Char) : List Char → Bool
  | [] => part.isEmpty
  | c :: rest => part.isPrefixOf (c :: rest) || occursIn part rest

/-- The quotes for a template: the first that do not occur in it, or else the last. -/
def templateQuotes (content : String) : String :=
  let quotes := ["'", "\"", "'''", "\"\"\""]
  (quotes.find? fun q => !occursIn q.toList content.toList).getD "\"\"\""

def quoteTemplate (content : String) : String :=
  let q := templateQuotes content
  "f" ++ q ++ content ++ q

def stripTemplate (s : String) : String := String.ofList ((s.toList.drop 2).dropLast)

/-- The text of an index: a tuple has no parentheses there. -/
def indexText (index : Expr) (text : String) : String :=
  match index with
  | .tuple _ (_ :: _) => String.ofList ((text.toList.drop 1).dropLast)
  | _ => text

def partText (part : Expr) (text : String) : String :=
  match part with
  | .constant _ (.text s) => String.ofList (templateText s)
  | _ => text

def Expr.wrap (needed : Bool) (text : String) : String :=
  if needed then "(" ++ text ++ ")" else text

mutual

def Expr.shown : Expr → String
  | .name _ id => id
  | .constant _ c => c.shown
  | .joined _ parts => quoteTemplate (String.join (Expr.shownParts parts))
  | .formatted _ value conversion? spec? =>
    "\x7b" ++ value.shown ++
      (match conversion? with
        | some c => "!" ++ String.singleton c
        | none => "") ++
      (match spec? with
        | some spec => ":" ++ stripTemplate spec.shown
        | none => "") ++ "\x7d"
  | .list _ items => "[" ++ ", ".intercalate (Expr.shownAll items) ++ "]"
  | .tuple _ items =>
    match items with
    | [item] => "(" ++ item.shown ++ ",)"
    | items => "(" ++ ", ".intercalate (Expr.shownAll items) ++ ")"
  | .set _ items => "\x7b" ++ ", ".intercalate (Expr.shownAll items) ++ "\x7d"
  | .dict _ entries => "\x7b" ++ ", ".intercalate (Expr.shownEntries entries) ++ "\x7d"
  | .starred _ value => "*" ++ value.shown
  | .attribute p value id =>
    let left := Expr.wrap ((Expr.attribute p value id).wraps value true) value.shown
    (if left.all Char.isDigit then "(" ++ left ++ ")" else left) ++ "." ++ id
  | .call p function args keywords =>
    Expr.wrap ((Expr.call p function args keywords).wraps function true) function.shown ++
      "(" ++ ", ".intercalate (Expr.shownAll args ++ Expr.shownKeywords keywords) ++ ")"
  | .subscript p value index =>
    Expr.wrap ((Expr.subscript p value index).wraps value true) value.shown ++ "[" ++
      indexText index index.shown ++ "]"
  | .slice _ lower? upper? step? =>
    Expr.shownOption lower? ++ ":" ++ Expr.shownOption upper? ++
      (match step? with
        | some step => ":" ++ step.shown
        | none => "")
  | .unary p o operand =>
    o.sign ++ Expr.wrap ((Expr.unary p o operand).wraps operand true) operand.shown
  | .binary p o left right =>
    Expr.wrap ((Expr.binary p o left right).wraps left true) left.shown ++ o.spaced ++
      Expr.wrap ((Expr.binary p o left right).wraps right false) right.shown
  | .boolean p o operands =>
    (" " ++ o.sign ++ " ").intercalate (Expr.shownOperands (.boolean p o []) operands)
  | .compare p left rest =>
    Expr.wrap ((Expr.compare p left []).wraps left true) left.shown ++ " " ++
      " ".intercalate (Expr.shownComparisons (.compare p left []) rest)
  | .conditional p test yes no =>
    let e := Expr.conditional p test yes no
    Expr.wrap (e.wraps yes true) yes.shown ++ " if " ++ Expr.wrap (e.wraps test true) test.shown ++
      " else " ++ Expr.wrap (e.wraps no false) no.shown
  | .lambda _ ps body =>
    let shownPs := ", ".intercalate (Expr.shownParameters ps)
    (if shownPs.isEmpty then "lambda: " else "lambda " ++ shownPs ++ ": ") ++ body.shown
  | .comprehension _ kind element clauses =>
    let content := element.shown ++ " " ++ " ".intercalate (Expr.shownClauses clauses)
    match kind with
    | .list => "[" ++ content ++ "]"
    | .set => "\x7b" ++ content ++ "\x7d"
    | .generator => "(" ++ content ++ ")"
  | .dictComprehension _ key value clauses =>
    "\x7b" ++ key.shown ++ ": " ++ value.shown ++ " " ++ " ".intercalate (Expr.shownClauses clauses) ++
      "\x7d"
  | .await _ value => "await " ++ value.shown
  | .yield _ value? =>
    match value? with
    | some value => "(yield " ++ value.shown ++ ")"
    | none => "(yield)"
  | .yieldFrom _ value => "(yield from " ++ value.shown ++ ")"
  | .bind _ target value => target.shown ++ " := " ++ value.shown

def Expr.shownParts : List Expr → List String
  | [] => []
  | part :: rest =>
    partText part part.shown :: Expr.shownParts rest

def Expr.shownAll : List Expr → List String
  | [] => []
  | e :: rest => e.shown :: Expr.shownAll rest

def Expr.shownOption : Option Expr → String
  | none => ""
  | some e => e.shown

/-- Operands of a boolean operator; each counts as a left one. -/
def Expr.shownOperands (parent : Expr) : List Expr → List String
  | [] => []
  | e :: rest => Expr.wrap (parent.wraps e true) e.shown :: Expr.shownOperands parent rest

def Expr.shownComparisons (parent : Expr) : List (Comparison × Expr) → List String
  | [] => []
  | (c, e) :: rest =>
    (c.sign ++ " " ++ Expr.wrap (parent.wraps e false) e.shown) :: Expr.shownComparisons parent rest

def Expr.shownEntries : List (Option Expr × Expr) → List String
  | [] => []
  | (key?, value) :: rest =>
    (match key? with
      | some key => key.shown ++ ": " ++ value.shown
      | none => "**" ++ value.shown) :: Expr.shownEntries rest

def Expr.shownKeywords : List (Keyword Expr) → List String
  | [] => []
  | ⟨_, name?, value⟩ :: rest =>
    (match name? with
      | some id => id ++ "=" ++ value.shown
      | none => "**" ++ value.shown) :: Expr.shownKeywords rest

def Expr.shownClauses : List (Clause Expr) → List String
  | [] => []
  | ⟨isAsync, target, source, conditions⟩ :: rest =>
    ((if isAsync then "async for " else "for ") ++ target.shown ++ " in " ++ source.shown ++
      String.join (Expr.shownConditions conditions)) :: Expr.shownClauses rest

def Expr.shownConditions : List Expr → List String
  | [] => []
  | e :: rest => (" if " ++ e.shown) :: Expr.shownConditions rest

def Expr.shownParameter : Parameter Expr → String
  | ⟨_, id, hint?, default?⟩ =>
    let lead := match hint? with
      | some a => id ++ ": " ++ a.shown
      | none => id
    match default? with
    | some d => lead ++ (if hint?.isSome then " = " else "=") ++ d.shown
    | none => lead

def Expr.shownParameterList : List (Parameter Expr) → List String
  | [] => []
  | p :: rest => Expr.shownParameter p :: Expr.shownParameterList rest

def Expr.shownParameters : Parameters Expr → List String
  | ⟨positionalOnly, positional, rest?, keywordOnly, keywords?⟩ =>
    (if positionalOnly.isEmpty then [] else Expr.shownParameterList positionalOnly ++ ["/"]) ++
      Expr.shownParameterList positional ++
      (match rest? with
        | some p => ["*" ++ p.name]
        | none => if keywordOnly.isEmpty then [] else ["*"]) ++
      Expr.shownParameterList keywordOnly ++
      (match keywords? with
        | some p => ["**" ++ p.name]
        | none => [])

end

end ScenarioCheck.Source
