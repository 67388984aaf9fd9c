import ScenarioCheck.Source.Syntax

/-! Tokens of a module. -/
namespace ScenarioCheck.Source

structure Quotation where
  isRaw : Bool
  isBytes : Bool
  isTemplate : Bool
  body : List Char
  bodyStart : Position
  deriving Inhabited, Repr

/-- What a token is. Blocks open with `indent` and close with `dedent`. -/
inductive Lexeme where
  | word (text : String)
  | number (value : Constant)
  | quotation (q : Quotation)
  | mark (text : String)
  | newline
  | indent
  | dedent
  | finish
  deriving Inhabited, Repr

namespace Lexeme

def isMark (m : String) : Lexeme → Bool
  | mark text => text == m
  | _ => false

def isWord (w : String) : Lexeme → Bool
  | word text => text == w
  | _ => false

end Lexeme

structure Token where
  lexeme : Lexeme
  position : Position
  /-- The line of the last character. -/
  lastLine : Nat
  deriving Inhabited, Repr

/-- Reserved words: none of them is a name. -/
def reserved : List String := [
  "False", "None", "True", "and", "as", "assert", "async", "await", "break", "class", "continue",
  "def", "del", "elif", "else", "except", "finally", "for", "from", "global", "if", "import", "in",
  "is", "lambda", "nonlocal", "not", "or", "pass", "raise", "return", "try", "while", "with",
  "yield"]

def Position.after (p : Position) (c : Char) : Position :=
  if c = '\n' then ⟨p.line + 1, 0⟩ else ⟨p.line, p.column + c.utf8Size⟩

def Position.afterAll (p : Position) (text : List Char) : Position := text.foldl Position.after p

end ScenarioCheck.Source
