import ScenarioCheck.Source.Numeral
import ScenarioCheck.Source.Token
import ScenarioCheck.Text.Word

/-! From characters to tokens. Line ends are line feeds here. Blocks follow the indentation of
logical lines, which do not end between brackets. -/
namespace ScenarioCheck.Source.Lexer

/-- Operators and delimiters, longest first. -/
def marks : List (List Char) := [
  "**=", "//=", ">>=", "<<=", "...", "!=", "==", "<=", ">=", "->", "+=", "-=", "*=", "/=", "%=",
  "&=", "|=", "^=", "@=", ":=", "**", "//", "<<", ">>", "+", "-", "*", "/", "%", "@", "&", "|",
  "^", "~", "<", ">", "(", ")", "[", "]", "\x7b", "\x7d", ",", ":", ".", ";", "="].map String.toList

def mark? (text : List Char) : Option (List Char) := marks.find? (·.isPrefixOf text)

def closing? : Char → Option Char
  | '(' => some ')'
  | '[' => some ']'
  | '{' => some '}'
  | _ => none

def isClosing (c : Char) : Bool := c == ')' || c == ']' || c == '}'

/-- Brackets nest at most this deep. -/
def maxBrackets : Nat := 200

/-- Blocks nest less deep than this. -/
def maxIndents : Nat := 100

/-- Width of the white space a line starts with: a tab reaches to the next multiple of the tab
width, and a form feed starts over. -/
structure Indentation where
  wide : Nat := 0
  narrow : Nat := 0
  deriving DecidableEq, Inhabited

def Indentation.add (i : Indentation) (c : Char) : Indentation :=
  if c = ' ' then ⟨i.wide + 1, i.narrow + 1⟩
  else if c = '\t' then ⟨(i.wide / 8 + 1) * 8, i.narrow + 1⟩
  else ⟨0, 0⟩

def isSpace (c : Char) : Bool := c == ' ' || c == '\t' || c == '\x0c'

def prefixOf? (word : List Char) : Option (Bool × Bool × Bool) :=
  match String.ofList (word.map Char.toLower) with
  | "" | "u" => some (false, false, false)
  | "r" => some (true, false, false)
  | "b" => some (false, true, false)
  | "f" => some (false, false, true)
  | "br" | "rb" => some (true, true, false)
  | "fr" | "rf" => some (true, false, true)
  | _ => none

/-- The characters of a literal up to its closing quotes, and what follows them. A backslash takes
the next character with it; only tripled quotes reach over lines. -/
def quotedBody? (quote : Char) (tripled : Bool) : List Char → Option (List Char × List Char)
  | [] => none
  | ['\\'] => none
  | '\\' :: c :: rest =>
    (quotedBody? quote tripled rest).map fun (body, rest) => ('\\' :: c :: body, rest)
  | c :: rest =>
    if c = quote then
      if tripled then
        match rest with
        | d :: e :: after =>
          if d = quote ∧ e = quote then some ([], after)
          else (quotedBody? quote tripled rest).map fun (body, rest) => (c :: body, rest)
        | _ => none
      else some ([], rest)
    else if c = '\n' ∧ ¬ tripled then none
    else (quotedBody? quote tripled rest).map fun (body, rest) => (c :: body, rest)

structure State where
  position : Position
  /-- Open brackets, innermost first, by the bracket that closes them. -/
  brackets : List Char := []
  /-- Indentations of the open blocks, innermost first. -/
  indents : List Indentation := []
  atLineStart : Bool := true
  /-- Tokens so far, last first. -/
  tokens : List Token := []

namespace State

def emit (s : State) (lexeme : Lexeme) (text : List Char) : State :=
  let after := s.position.afterAll text
  { s with position := after, tokens := ⟨lexeme, s.position, after.line⟩ :: s.tokens }

def skip (s : State) (text : List Char) : State :=
  { s with position := s.position.afterAll text }

/-- Closes blocks until the indentation of the line is that of the innermost open one. -/
def dedentTo (s : State) (i : Indentation) : List Indentation → Option State
  | [] => if i.wide = 0 then (if i.narrow = 0 then some { s with indents := [] } else none) else none
  | top :: rest =>
    if i.wide < top.wide then dedentTo (s.emit .dedent []) i rest
    else if i.wide = top.wide ∧ i.narrow = top.narrow then some { s with indents := top :: rest }
    else none

/-- Opens or closes blocks at the start of a logical line. Tabs and blanks have to be used so that
the order of indentations does not depend on the width of a tab. -/
def indentTo? (s : State) (i : Indentation) : Option State :=
  let top := s.indents.head?.getD ⟨0, 0⟩
  if i.wide = top.wide then if i.narrow = top.narrow then some s else none
  else if top.wide < i.wide then
    if i.narrow ≤ top.narrow then none
    else if maxIndents ≤ s.indents.length + 1 then none
    else some ((s.emit .indent []) |> fun s => { s with indents := i :: s.indents })
  else s.dedentTo i s.indents

end State

def readMark? (s : State) (text : List Char) : Option (State × List Char) := do
  let m ← mark? text
  let rest := text.drop m.length
  let s' := s.emit (.mark (String.ofList m)) m
  match m with
  | [c] =>
    match closing? c with
    | some close =>
      if maxBrackets ≤ s.brackets.length then none
      else some ({ s' with brackets := close :: s.brackets }, rest)
    | none =>
      if isClosing c then
        match s.brackets with
        | top :: brackets => if top = c then some ({ s' with brackets }, rest) else none
        | [] => none
      else some (s', rest)
  | _ => some (s', rest)

def readQuotation? (s : State) (word rest : List Char) : Option (State × List Char) := do
  let (isRaw, isBytes, isTemplate) ← prefixOf? word
  match rest with
  | quote :: after =>
    let tripled := match after with
      | d :: e :: _ => d == quote && e == quote
      | _ => false
    let opening := if tripled then [quote, quote, quote] else [quote]
    let (body, tail) ← quotedBody? quote tripled (rest.drop opening.length)
    let bodyStart := s.position.afterAll (word ++ opening)
    some (s.emit (.quotation ⟨isRaw, isBytes, isTemplate, body, bodyStart⟩)
      (word ++ opening ++ body ++ opening), tail)
  | [] => none

def isNameLike (c : Char) : Bool := c.isAlphanum || c == '_' || 0x80 ≤ c.toNat

def isName : List Char → Bool
  | [] => false
  | c :: rest => (c == '_' || Text.isWordStart c) && rest.all Text.isWord

def startsQuotation : List Char → Bool
  | c :: _ => c == '"' || c == '\''
  | [] => false

def readWord? (s : State) (text : List Char) : Option (State × List Char) :=
  let word := text.takeWhile isNameLike
  let rest := text.dropWhile isNameLike
  if startsQuotation rest && (prefixOf? word).isSome then readQuotation? s word rest
  else if isName word then some (s.emit (.word (String.ofList word)) word, rest)
  else none

def readToken? (s : State) (text : List Char) : Option (State × List Char) :=
  match text with
  | [] => none
  | c :: rest =>
    if c.isDigit || (c == '.' && rest.head?.any Char.isDigit) then
      (Numeral.read? text).map fun (value, tail) =>
        (s.emit (.number value) (text.take (text.length - tail.length)), tail)
    else if startsQuotation text then readQuotation? s [] text
    else if isNameLike c then readWord? s text
    else readMark? s text

/-- The indentation of a line, and its text behind the white space. A backslash in it joins the
next line; the first one that has white space before it fixes the indentation. -/
def readIndentation (s : State) (i : Indentation) (joined? : Option Indentation) :
    List Char → Option (State × Indentation × List Char)
  | '\\' :: '\n' :: rest =>
    let joined? := joined?.orElse fun _ => if i.wide = 0 then none else some ⟨i.wide, i.wide⟩
    if rest.isEmpty then none else readIndentation (s.skip ['\\', '\n']) i joined? rest
  | c :: rest =>
    if isSpace c then readIndentation (s.skip [c]) (i.add c) joined? rest
    else some (s, joined?.getD i, c :: rest)
  | [] => some (s, joined?.getD i, [])

/-- One step at the start of a line: blank lines and comments have no indentation. -/
def startLine? (s : State) (text : List Char) : Option (State × List Char) := do
  let (s', i, rest) ← readIndentation s {} none text
  let inside := { s' with atLineStart := false }
  match rest with
  | '#' :: _ =>
    let comment := rest.takeWhile (· ≠ '\n')
    some ({ s' with position := s'.position.afterAll (comment ++ ['\n']) },
      (rest.dropWhile (· ≠ '\n')).drop 1)
  | '\n' :: rest => some (s'.skip ['\n'], rest)
  | rest => (inside.indentTo? i).map (·, rest)

def step? (s : State) (text : List Char) : Option (State × List Char) :=
  if s.atLineStart then startLine? s text
  else
    match text with
    | '\n' :: rest =>
      if s.brackets.isEmpty then some ({ s.emit .newline ['\n'] with atLineStart := true }, rest)
      else some (s.skip ['\n'], rest)
    | '\\' :: '\n' :: rest => if rest.isEmpty then none else some (s.skip ['\\', '\n'], rest)
    | '#' :: _ => some (s.skip (text.takeWhile (· ≠ '\n')), text.dropWhile (· ≠ '\n'))
    | c :: rest => if isSpace c then some (s.skip [c], rest) else readToken? s text
    | [] => none

def run? (fuel : Nat) (s : State) (text : List Char) : Option State :=
  match fuel, text with
  | _, [] => some s
  | 0, _ => none
  | fuel + 1, text => (step? s text).bind fun (s', rest) => run? fuel s' rest

/-- The tokens after the last character: all brackets have to be closed, and blocks end. -/
def finish? (s : State) : Option (List Token) :=
  if s.brackets.isEmpty then
    let closed := s.indents.foldl (fun s _ => s.emit .dedent []) s
    some (closed.emit .finish []).tokens.reverse
  else none

/-- The tokens of a module, none if it has a character or a line that is not allowed. -/
def tokens? (text : List Char) : Option (List Token) :=
  if text.contains '\x00' then none
  else (run? (2 * text.length + 2) { position := ⟨1, 0⟩ } text).bind finish?

/-- The tokens of an expression that stands between braces inside a string literal, read as if it
stood between parentheses. -/
def embedded? (position : Position) (text : List Char) : Option (List Token) :=
  let text := '(' :: text ++ [')']
  (run? (2 * text.length + 2) { position, atLineStart := false } text).bind finish?

end ScenarioCheck.Source.Lexer
