import ScenarioCheck.Text.Lines

/-! Patterns for names. A star stands for any characters, a question mark for one, brackets for one
of a class. A bracket that is not closed stands for itself. -/
namespace ScenarioCheck.Wildcard

inductive Piece where
  | any
  | one
  | same (c : Char)
  /-- A character within one of some ranges, or within none of them. -/
  | within (negated : Bool) (ranges : List (Char × Char))
  deriving DecidableEq, Repr

/-- The length of what stands between brackets, if they are closed: a closing bracket that comes
first, also behind a mark of negation, belongs to it. -/
def classLength? (text : List Char) : Option Nat :=
  let start := match text with
    | '!' :: ']' :: _ => 2
    | '!' :: _ => 1
    | ']' :: _ => 1
    | _ => 0
  let inner := (text.drop start).takeWhile (· != ']')
  if start + inner.length < text.length then some (start + inner.length) else none

/-- Cuts at every hyphen that is not among the first so many characters of its piece; after a cut
the next two characters are kept together. -/
def cutHyphens (keep : Nat) (piece : List Char) : List Char → List (List Char)
  | [] => [piece.reverse]
  | c :: rest =>
    match keep with
    | keep + 1 => cutHyphens keep (c :: piece) rest
    | 0 => if c = '-' then piece.reverse :: cutHyphens 2 [] rest else cutHyphens 0 (c :: piece) rest

/-- A hyphen at the end stands for itself. -/
def closeHyphen (pieces : List (List Char)) : List (List Char) :=
  match pieces.reverse with
  | [] :: last :: before => ((last ++ ['-']) :: before).reverse
  | _ => pieces

/-- Two pieces whose ends are no range become one without these ends; from the last pair on. -/
def joinEmpty : List (List Char) → List (List Char)
  | [] => []
  | p :: rest =>
    match joinEmpty rest with
    | [] => [p]
    | q :: more => match p.getLast?, q with
      | some low, high :: others =>
        if low > high then (p.dropLast ++ others) :: more else p :: q :: more
      | _, _ => p :: q :: more

/-- Single characters, and a range from the end of each piece to the start of the next. -/
def rangesOf : List (List Char) → List (Char × Char)
  | [] => []
  | [p] => p.map fun c => (c, c)
  | p :: q :: rest =>
    p.map (fun c => (c, c)) ++
      (match p.getLast?, q.head? with
        | some low, some high => [(low, high)]
        | _, _ => []) ++ rangesOf (q :: rest)

/-- A class between brackets. An empty one takes nothing, the negation of an empty one all. -/
def classPiece (text : List Char) : Piece :=
  let pieces :=
    if text.contains '-' then
      joinEmpty (closeHyphen (cutHyphens (if text.head? = some '!' then 2 else 1) [] text))
    else [text]
  match pieces with
  | ('!' :: first) :: rest => .within true (rangesOf (first :: rest))
  | pieces => .within false (rangesOf pieces)

/-- The pieces of a pattern; `skip` characters belong to a class that was read. -/
def piecesFrom (skip : Nat) : List Char → List Piece
  | [] => []
  | c :: rest =>
    match skip with
    | skip + 1 => piecesFrom skip rest
    | 0 =>
      if c = '*' then .any :: piecesFrom 0 rest
      else if c = '?' then .one :: piecesFrom 0 rest
      else if c = '[' then
        match classLength? rest with
        | some n => classPiece (rest.take n) :: piecesFrom (n + 1) rest
        | none => .same c :: piecesFrom 0 rest
      else .same c :: piecesFrom 0 rest

def pieces (pattern : String) : List Piece := piecesFrom 0 pattern.toList

def Piece.takes : Piece → Char → Bool
  | .any, _ => true
  | .one, _ => true
  | .same c, d => c == d
  | .within negated ranges, d => (ranges.any fun r => r.1 ≤ d && d ≤ r.2) != negated

/-- Some beginning is left to the star, the rest to what follows it. -/
def anySuffix (accepts : List Char → Bool) : List Char → Bool
  | [] => accepts []
  | c :: rest => accepts (c :: rest) || anySuffix accepts rest

def accepts : List Piece → List Char → Bool
  | [], text => text.isEmpty
  | .any :: rest, text => anySuffix (accepts rest) text
  | p :: rest, c :: text => p.takes c && accepts rest text
  | _ :: _, [] => false

/-- A text matches a pattern as a whole; a star also takes slashes. -/
def isMatch (pattern text : String) : Bool := accepts (pieces pattern) text.toList

def isPattern (text : String) : Bool := text.toList.any fun c => c == '*' || c == '?' || c == '['

end ScenarioCheck.Wildcard
