import ScenarioCheck.Source.Lexer
import ScenarioCheck.Source.Literal

/-! String literals with embedded expressions: fixed text and fields between braces. Braces of the
text are written twice. The expression of a field is only cut out here. -/
namespace ScenarioCheck.Source

/-- A field and what it says about its value: the text to show in front of it, a conversion and a
format, which may hold fields itself. -/
inductive Piece where
  | text (content : List Char)
  | field (position : Position) (expression : List Char) (shown? : Option (List Char))
      (conversion? : Option Char) (format? : Option (List Piece))
  deriving Inhabited

namespace Template

structure Cursor where
  position : Position
  rest : List Char
  deriving Inhabited

def Cursor.skip (c : Cursor) (n : Nat) : Cursor :=
  ⟨c.position.afterAll (c.rest.take n), c.rest.drop n⟩

/-- Why fixed text ends: at a doubled brace, whose first half belongs to the text; at a brace of
its own; or with the literal. -/
inductive TextEnd where
  | doubled
  | brace

/-- What the scanner of fixed text has just seen: a backslash takes the next character with it, and
braces of a character name are no braces of the literal. -/
inductive Escaping where
  | no
  | backslash
  | letterN
  | name

/-- The length of fixed text and the reason for its end. Braces are doubled at the top only, where
a closing brace alone is refused. -/
def textLength? (isRaw isTop : Bool) (escaping : Escaping) (n : Nat) :
    List Char → Option (Nat × TextEnd)
  | [] => some (n, .brace)
  | c :: rest =>
    match escaping with
    | .name => textLength? isRaw isTop (if c = '}' then .no else .name) (n + 1) rest
    | .letterN => textLength? isRaw isTop (if c = '{' then .name else .no) (n + 1) rest
    | escaping =>
      if c = '{' ∨ c = '}' then
        if !isTop then some (n, .brace)
        else if rest.head? = some c then some (n + 1, .doubled)
        else if c = '}' then none
        else some (n, .brace)
      else
        match escaping with
        | .backslash => textLength? isRaw isTop (if c = 'N' then .letterN else .no) (n + 1) rest
        | _ =>
          textLength? isRaw isTop (if c = '\\' && !isRaw then .backslash else .no) (n + 1) rest

inductive Inside where
  | code
  | string (quote : Char)
  | tripled (quote : Char)

def followedBy (rest : List Char) (c d : Char) : Bool := [c, d].isPrefixOf rest

/-- The length of an expression: it ends before a conversion, a format, an equals sign or the
closing brace outside all brackets and strings. Backslashes and comments are refused. The next
`passed` characters belong to a mark that was looked at already. -/
def expressionLength? (inside : Inside) (brackets : List Char) (passed n : Nat) :
    List Char → Option Nat
  | [] => none
  | c :: rest =>
    match passed with
    | passed + 1 => expressionLength? inside brackets passed (n + 1) rest
    | 0 =>
      if c = '\\' then none
      else
        match inside with
        | .string q =>
          expressionLength? (if c = q then .code else .string q) brackets 0 (n + 1) rest
        | .tripled q =>
          if c = q && followedBy rest q q then expressionLength? .code brackets 2 (n + 1) rest
          else expressionLength? (.tripled q) brackets 0 (n + 1) rest
        | .code =>
          let ends := brackets.isEmpty && (c == '!' || c == ':' || c == '}' || c == '=')
          let compares := brackets.isEmpty && rest.head? == some '=' &&
            (c == '!' || c == '=' || c == '<' || c == '>')
          if c = '"' ∨ c = '\'' then
            if followedBy rest c c then expressionLength? (.tripled c) brackets 2 (n + 1) rest
            else expressionLength? (.string c) brackets 0 (n + 1) rest
          else if c = '#' then none
          else if compares then expressionLength? .code brackets 1 (n + 1) rest
          else if ends then some n
          else
            match Lexer.closing? c with
            | some close =>
              if Lexer.maxBrackets ≤ brackets.length then none
              else expressionLength? .code (close :: brackets) 0 (n + 1) rest
            | none =>
              if Lexer.isClosing c then
                match brackets with
                | top :: brackets =>
                  if top = c then expressionLength? .code brackets 0 (n + 1) rest else none
                | [] => none
              else expressionLength? .code brackets 0 (n + 1) rest

/-- White space around expressions of fields. -/
def isFieldSpace (c : Char) : Bool := c == ' ' || c == '\t' || c == '\n' || c == '\x0c'

/-- The text of a field up to behind an equals sign that asks to show it. -/
def shownLength (n : Nat) (rest : List Char) : Nat :=
  n + 1 + ((rest.drop 1).takeWhile fun c => isFieldSpace c || c == '\x0b' || c == '\r').length

/-- A conversion behind its mark: one of three letters up to the format or the closing brace. -/
def conversion? (rest : List Char) : Option (Char × List Char) :=
  match rest with
  | c :: rest =>
    if (c == 's' || c == 'r' || c == 'a') &&
        (rest.head? == some '}' || rest.head? == some ':') then some (c, rest)
    else none
  | [] => none

/-- The pieces of a literal from a position on, up to its end or, inside a format, up to the
closing brace. Formats nest at most once; `level` counts down. -/
def pieces? (named? : CharNames) (isRaw isTop : Bool) (level fuel : Nat) (c : Cursor) : Option (List Piece × Cursor) :=
  match fuel with
  | 0 => none
  | fuel + 1 => do
    let (n, reason) ← textLength? isRaw isTop .no 0 c.rest
    let content ← Literal.text? named? isRaw (c.rest.take n)
    let lead := if content.isEmpty then [] else [Piece.text content]
    match reason with
    | .doubled => do
      let (more, c) ← pieces? named? isRaw isTop level fuel (c.skip (n + 1))
      some (lead ++ more, c)
    | .brace =>
      let c := c.skip n
      match level, c.rest with
      | level + 1, '{' :: body => do
        let length ← expressionLength? .code [] 0 0 body
        let expression := body.take length
        if expression.all isFieldSpace then none
        else
          let after := body.drop length
          let shown := if after.head? = some '=' then shownLength length after else length
          let shown? := if shown = length then none else some (body.take shown)
          let (conversion?, tail) ←
            match body.drop shown with
            | '!' :: tail => do
              let (letter, tail) ← conversion? tail
              some (some letter, tail)
            | tail => some (none, tail)
          let behind := c.skip (c.rest.length - tail.length)
          let (format?, behind) ←
            match behind.rest with
            | ':' :: _ :: _ => do
              let (format, behind) ← pieces? named? isRaw false level fuel (behind.skip 1)
              some (some format, behind)
            | _ => some (none, behind)
          match behind.rest with
          | '}' :: _ => do
            let conversion? := conversion?.orElse fun _ =>
              if shown?.isSome && format?.isNone then some 'r' else none
            let (more, last) ← pieces? named? isRaw isTop (level + 1) fuel (behind.skip 1)
            some (lead ++ Piece.field c.position expression shown? conversion? format? :: more, last)
          | _ => none
      | 0, '{' :: _ => none
      | _, _ => some (lead, c)

def ofQuotation? (named? : CharNames) (q : Quotation) : Option (List Piece) := do
  let (pieces, c) ← pieces? named? q.isRaw true 2 (q.body.length + 2) ⟨q.bodyStart, q.body⟩
  if c.rest.isEmpty then some pieces else none

end Template
end ScenarioCheck.Source
