import ScenarioCheck.Pattern.Slot
import ScenarioCheck.Text.Quoted

/-! Step patterns: literal text with slots between braces. A slot is an opening brace, one or more
characters other than a closing brace, and a closing brace; slots are cut off from left to right.
All views of a pattern are read off this one cut. -/
namespace ScenarioCheck.Pattern

/-- A pattern cut at its slots: a literal, then each slot text with the literal after it. -/
structure Cut where
  head : List Char
  tail : List (List Char × List Char)
  deriving DecidableEq, Repr

namespace Cut

def cons (c : Char) (cut : Cut) : Cut := { cut with head := c :: cut.head }

def toText (cut : Cut) : List Char :=
  cut.head ++ cut.tail.flatMap fun (slot, literal) => '{' :: slot ++ '}' :: literal

/-- All literals, one more than there are slots. -/
def literals (cut : Cut) : List (List Char) := cut.head :: cut.tail.map (·.2)

def slots (cut : Cut) : List (List Char) := cut.tail.map (·.1)

def fill (cut : Cut) (values : List (List Char)) : List Char :=
  cut.head ++ (values.zip (cut.tail.map (·.2))).flatMap fun (value, literal) => value ++ literal

end Cut

def slot? (text : List Char) : Option (List Char × List Char) :=
  let body := text.takeWhile (· ≠ '}')
  match text.dropWhile (· ≠ '}') with
  | [] => none
  | _ :: rest => if body.isEmpty then none else some (body, rest)

theorem slot?_length {text body rest : List Char} (h : slot? text = some (body, rest)) :
    rest.length < text.length := by
  simp only [slot?] at h
  split at h
  · cases h
  · rename_i c r hd
    split at h
    · cases h
    · simp only [Option.some.injEq, Prod.mk.injEq] at h
      have : (text.dropWhile (· ≠ '}')).length ≤ text.length :=
        List.Sublist.length_le (List.dropWhile_sublist _)
      rw [hd, h.2] at this
      simp at this
      omega

def cut (text : List Char) : Cut :=
  match text with
  | [] => ⟨[], []⟩
  | c :: rest =>
    if c = '{' then
      match h : slot? rest with
      | some (slot, after) =>
        have : after.length < rest.length := slot?_length h
        let inner := cut after
        ⟨[], (slot, inner.head) :: inner.tail⟩
      | none => (cut rest).cons c
    else (cut rest).cons c
termination_by text.length

def slotsOf (pattern : String) : List Slot :=
  (cut pattern.toList).slots.map fun s => Slot.ofText (String.ofList s)

structure WrongCount where
  pattern : String
  slots : Nat
  values : Nat

def WrongCount.message (e : WrongCount) : String :=
  "Pattern " ++ Text.quoted e.pattern ++ " has " ++ toString e.slots ++ " placeholder(s), got " ++
    toString e.values ++ " value(s)"

def render (pattern : String) (values : List String) : Except WrongCount String :=
  let c := cut pattern.toList
  if values.length = c.tail.length then .ok (String.ofList (c.fill (values.map String.toList)))
  else .error ⟨pattern, c.tail.length, values.length⟩

/-- What stands for each slot while the values are not known yet. -/
def slotToken : List Char := "value".toList

/-- The pattern with the token in each slot: what a partly typed step is compared with. -/
def tokenText (pattern : String) : List Char :=
  let c := cut pattern.toList
  c.fill (List.replicate c.tail.length slotToken)

def snippetSlot (number : Nat) (slot : List Char) : List Char :=
  s!"$\x7b{number}:".toList ++ (Slot.ofText (String.ofList slot)).default.toList ++ ['}']

/-- The pattern as an editor snippet: slots numbered from 1, each with its default. -/
def snippet (pattern : String) : String :=
  let c := cut pattern.toList
  String.ofList (c.fill (c.slots.zipIdx.map fun (slot, i) => snippetSlot (i + 1) slot))

def shown (pattern : String) : String := "CompiledPattern(" ++ Text.quoted pattern ++ ")"

end ScenarioCheck.Pattern
