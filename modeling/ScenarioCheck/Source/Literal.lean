import ScenarioCheck.Number.Read
import ScenarioCheck.Source.Token

/-! What string literals stand for. -/
namespace ScenarioCheck.Source

/-- What the names of characters stand for. The tables of Unicode are not part of this library:
whoever reads a module brings the names along. -/
abbrev CharNames := String → Option Char

namespace Literal

def shortEscape? : Char → Option Char
  | '\\' => some '\\'
  | '\'' => some '\''
  | '"' => some '"'
  | 'a' => some '\x07'
  | 'b' => some '\x08'
  | 'f' => some '\x0c'
  | 'n' => some '\n'
  | 'r' => some '\r'
  | 't' => some '\t'
  | 'v' => some '\x0b'
  | _ => none

def isOctal (c : Char) : Bool := '0' ≤ c && c ≤ '7'

def digits? (base : Nat) (text : List Char) : Option Nat :=
  text.foldlM (fun n c => (Number.digitValue? base c).map (n * base + ·)) 0

def hex? (width : Nat) (rest : List Char) : Option (Nat × List Char) :=
  if rest.length < width then none
  else (digits? 16 (rest.take width)).map (·, rest.drop width)

/-- The character of a code point, none beyond the last one. A surrogate stands for the character
that replaces what cannot be shown. -/
def charOf? (code : Nat) : Option Char :=
  if 0x10FFFF < code then none
  else if 0xD800 ≤ code && code ≤ 0xDFFF then some '\ufffd'
  else some (Char.ofNat code)

def namedEscape? (named? : CharNames) (rest : List Char) : Option (Char × List Char) :=
  match rest with
  | '{' :: rest =>
    match rest.dropWhile (· ≠ '}') with
    | _ :: after => (named? (String.ofList (rest.takeWhile (· ≠ '}')))).map (·, after)
    | [] => none
  | _ => none

/-- One escape behind its backslash: the code point it stands for, if any, and what follows. An
unknown letter keeps its backslash. -/
inductive Escape where
  | nothing
  | code (n : Nat)
  | unknown

/-- Reads an escape behind its backslash. In bytes, which know no names, only numeric and one-letter
escapes count. -/
def escape? (names? : Option CharNames) (text : List Char) : Option (Escape × List Char) :=
  match text with
  | [] => some (.unknown, [])
  | '\n' :: rest => some (.nothing, rest)
  | 'x' :: rest => (hex? 2 rest).map fun (n, rest) => (.code n, rest)
  | c :: rest =>
    match shortEscape? c with
    | some d => some (.code d.toNat, rest)
    | none =>
      if isOctal c then
        let run := (text.take 3).takeWhile isOctal
        (digits? 8 run).map fun n => (.code n, text.drop run.length)
      else match names? with
        | none => some (.unknown, text)
        | some named? =>
          if c = 'u' then (hex? 4 rest).map fun (n, rest) => (.code n, rest)
          else if c = 'U' then (hex? 8 rest).map fun (n, rest) => (.code n, rest)
          else if c = 'N' then
            (namedEscape? named? rest).map fun (d, rest) => (.code d.toNat, rest)
          else some (.unknown, text)

def decodeText (named? : CharNames) (fuel : Nat) (body : List Char) : Option (List Char) :=
  match fuel, body with
  | _, [] => some []
  | 0, _ => none
  | fuel + 1, '\\' :: rest =>
    match escape? (some named?) rest with
    | none => none
    | some (.nothing, rest) => decodeText named? fuel rest
    | some (.code n, rest) => do
      let c ← charOf? n
      let tail ← decodeText named? fuel rest
      some (c :: tail)
    | some (.unknown, rest) => (decodeText named? fuel rest).map ('\\' :: ·)
  | fuel + 1, c :: rest => (decodeText named? fuel rest).map (c :: ·)

/-- The bytes of a literal body: ASCII characters and escapes, these modulo 256. -/
def decodeBytes (isRaw : Bool) (fuel : Nat) (body : List Char) : Option (List Nat) :=
  match fuel, body with
  | _, [] => some []
  | 0, _ => none
  | fuel + 1, c :: rest =>
    if 0x80 ≤ c.toNat then none
    else if c = '\\' ∧ ¬ isRaw then
      match escape? none rest with
      | none => none
      | some (.nothing, rest) => decodeBytes isRaw fuel rest
      | some (.code n, rest) => (decodeBytes isRaw fuel rest).map (n % 256 :: ·)
      | some (.unknown, rest) => (decodeBytes isRaw fuel rest).map (c.toNat :: ·)
    else (decodeBytes isRaw fuel rest).map (c.toNat :: ·)

def text? (named? : CharNames) (isRaw : Bool) (body : List Char) : Option (List Char) :=
  if isRaw then some body else decodeText named? (body.length + 1) body

def bytes? (isRaw : Bool) (body : List Char) : Option (List Nat) :=
  decodeBytes isRaw (body.length + 1) body

end Literal
end ScenarioCheck.Source
