import ScenarioCheck.Proofs.Pattern.Rendered
import ScenarioCheck.Proofs.Pattern.Slots

/-! The views of a pattern. A scan goes over a pattern on its own, from left to right, and takes a slot
wherever one starts: it may collect the slots or the literals, or write out the pattern with something
else in each slot. All of this is read off the one cut, so matching and rendering, the token text and
the snippet have their slots at the same places and the same literals between them. -/
namespace ScenarioCheck.Pattern

variable {σ : Type}

/-- A scan of a text. Where a slot starts it is taken as a whole, unless the scan fails there; anywhere
else one character is taken. -/
def scan? (char : σ → Char → σ) (slot : σ → List Char → Option σ) (state : σ)
    (text : List Char) : Option σ :=
  match text with
  | [] => some state
  | c :: rest =>
    if c = '{' then
      match h : slot? rest with
      | some (found, after) =>
        have : after.length < rest.length := slot?_length h
        (slot state found).bind fun state => scan? char slot state after
      | none => scan? char slot (char state c) rest
    else scan? char slot (char state c) rest
termination_by text.length

def write (s : List Char × σ) (c : Char) : List Char × σ := (s.1 ++ [c], s.2)

def scannedSlots? (text : List Char) : Option (List (List Char)) :=
  scan? (fun slots _ => slots) (fun slots slot => some (slots ++ [slot])) [] text

/-- The text between the slots: each slot ends the literal before it. -/
def scannedLiterals? (text : List Char) : Option (List (List Char)) :=
  (scan? write (fun s _ => some ([], s.2 ++ [s.1])) ([], []) text).map fun s => s.2 ++ [s.1]

/-- The text with something else in place of each slot. What that is may depend on the slots before,
and there may be nothing. -/
def replaced? (next : σ → List Char → Option (List Char × σ)) (state : σ) (text : List Char) :
    Option (List Char) :=
  (scan? write (fun s slot => (next s.2 slot).map fun r => (s.1 ++ r.1, r.2)) ([], state) text).map
    (·.1)

def puts? (next : σ → List Char → Option (List Char × σ)) (state : σ) :
    List (List Char) → Option (List (List Char))
  | [] => some []
  | slot :: slots => (next state slot).bind fun r => (puts? next r.2 slots).map (r.1 :: ·)

/-! A scan follows the cut. -/

section Scan

variable (char : σ → Char → σ) (slot : σ → List Char → Option σ)

/-- The same steps along a cut: literal by literal, and a slot before each but the first. -/
def scanCut? (state : σ) (head : List Char) : List (List Char × List Char) → Option σ
  | [] => some (head.foldl char state)
  | (found, literal) :: tail =>
    (slot (head.foldl char state) found).bind fun state => scanCut? state literal tail

theorem scan?_slot (state : σ) {rest found after : List Char}
    (h : slot? rest = some (found, after)) : scan? char slot state ('{' :: rest) =
      (slot state found).bind fun state => scan? char slot state after := by
  rw [scan?, if_pos rfl]
  split
  · rename_i h'
    cases h.symm.trans h'
    rfl
  · rename_i h'
    cases h.symm.trans h'

@[simp] theorem scan?_char (state : σ) {c : Char} {rest : List Char}
    (h : c = '{' → slot? rest = none) :
    scan? char slot state (c :: rest) = scan? char slot (char state c) rest := by
  rw [scan?]
  split
  · rename_i hc
    split
    · rename_i h'
      cases (h hc).symm.trans h'
    · rfl
  · rfl

@[simp] theorem scanCut?_cons (state : σ) (c : Char) (cut : Cut) :
    scanCut? char slot state (cut.cons c).head (cut.cons c).tail =
      scanCut? char slot (char state c) cut.head cut.tail := by
  obtain ⟨head, tail⟩ := cut
  cases tail <;> rfl

theorem scan?_eq (state : σ) (text : List Char) :
    scan? char slot state text = scanCut? char slot state (cut text).head (cut text).tail := by
  fun_induction cut text generalizing state with
  | case1 =>
    rw [scan?]
    rfl
  | case2 rest found after h hlt inner ih =>
    rw [scan?_slot char slot state h, scanCut?]
    simp only [ih]
    rfl
  | case3 rest h ih => rw [scan?_char char slot state fun _ => h, ih, scanCut?_cons]
  | case4 c rest hc ih =>
    rw [scan?_char char slot state fun heq => absurd heq hc, ih, scanCut?_cons]

end Scan

@[simp] theorem Cut.fill_nil (head : List Char) (values : List (List Char)) :
    fill ⟨head, []⟩ values = head := by
  simp [fill]

@[simp] theorem Cut.fill_cons (head slot literal value : List Char)
    (tail : List (List Char × List Char))
    (values : List (List Char)) :
    fill ⟨head, (slot, literal) :: tail⟩ (value :: values) =
      head ++ (value ++ fill ⟨literal, tail⟩ values) := by
  simp [fill]

@[simp] theorem foldl_write (written literal : List Char) (state : σ) :
    literal.foldl write (written, state) = (written ++ literal, state) := by
  induction literal generalizing written with
  | nil => simp
  | cons c literal ih => simp [write, ih]

@[simp] theorem scannedSlots?_eq (text : List Char) :
    scannedSlots? text = some (cut text).slots := by
  have hcut (head : List Char) (tail : List (List Char × List Char)) (found : List (List Char)) :
      scanCut? (fun slots _ => slots) (fun slots slot => some (slots ++ [slot])) found head tail =
        some (found ++ tail.map (·.1)) := by
    induction tail generalizing head found with
    | nil => simp [scanCut?]
    | cons field tail ih => simp [scanCut?, ih]
  rw [scannedSlots?, scan?_eq, hcut, List.nil_append]
  rfl

@[simp] theorem scannedLiterals?_eq (text : List Char) :
    scannedLiterals? text = some (cut text).literals := by
  have hcut (head : List Char) (tail : List (List Char × List Char)) (written : List Char)
      (literals : List (List Char)) :
      (scanCut? write (fun s _ => some ([], s.2 ++ [s.1])) (written, literals) head tail).map
        (fun s => s.2 ++ [s.1]) = some (literals ++ (written ++ head) :: tail.map (·.2)) := by
    induction tail generalizing head written literals with
    | nil => simp [scanCut?]
    | cons field tail ih =>
      rw [scanCut?, foldl_write, Option.bind_some, ih]
      simp
  rw [scannedLiterals?, scan?_eq, hcut]
  rfl

theorem replaced?_eq (next : σ → List Char → Option (List Char × σ)) (state : σ)
    (text : List Char) :
    replaced? next state text = (puts? next state (cut text).slots).map (cut text).fill := by
  have hcut (head : List Char) (tail : List (List Char × List Char)) (written : List Char)
      (state : σ) :
      (scanCut? write (fun s slot => (next s.2 slot).map fun r => (s.1 ++ r.1, r.2))
        (written, state) head tail).map (·.1) =
          (puts? next state (tail.map (·.1))).map fun values =>
            written ++ Cut.fill ⟨head, tail⟩ values := by
    induction tail generalizing head written state with
    | nil => simp [scanCut?, puts?]
    | cons field tail ih =>
      obtain ⟨slot, literal⟩ := field
      rw [scanCut?, foldl_write, List.map_cons, puts?]
      cases next state slot with
      | none => rfl
      | some r =>
        simp only [Option.map_some, Option.bind_some, ih, Option.map_map]
        congr 1
        funext values
        simp
  rw [replaced?, scan?_eq, hcut]
  rfl

/-! What is put in place of the slots. -/

def takeToken (_ : Unit) (_ : List Char) : Option (List Char × Unit) := some (slotToken, ())

/-- Takes the next of some numbers for a slot of a snippet. -/
def takeNumber : List Nat → List Char → Option (List Char × List Nat)
  | [], _ => none
  | number :: numbers, slot => some (snippetSlot number slot, numbers)

@[simp] theorem puts?_takeToken (slots : List (List Char)) :
    puts? takeToken () slots = some (List.replicate slots.length slotToken) := by
  induction slots with
  | nil => rfl
  | cons slot slots ih => simp [puts?, takeToken, ih, List.replicate_succ]

theorem puts?_takeNumber (slots : List (List Char)) (start : Nat) :
    puts? takeNumber (List.range' (start + 1) (slots.length + 1)) slots =
      some ((slots.zipIdx start).map fun (slot, i) => snippetSlot (i + 1) slot) := by
  induction slots generalizing start with
  | nil => rfl
  | cons slot slots ih =>
    rw [List.length_cons, List.range'_succ, puts?, takeNumber, Option.bind_some, ih]
    simp [List.zipIdx_cons]

def slotText (slot : List Char) : String := String.ofList ('{' :: (slot ++ ['}']))

@[simp] theorem fill_slotText (c : Cut) :
    c.fill (c.slots.map fun slot => (slotText slot).toList) = c.toText := by
  obtain ⟨head, tail⟩ := c
  induction tail generalizing head with
  | nil => simp
  | cons field tail ih =>
    obtain ⟨slot, literal⟩ := field
    have hrest := ih literal
    rw [Cut.slots, List.map_cons, List.map_cons, Cut.fill_cons, Cut.toText_slot, ← hrest, slotText,
      String.toList_ofList]
    simp [Cut.slots]

def numbered (number : Nat) (slot : Slot) : String :=
  "$\x7b" ++ toString number ++ ":" ++ slot.default ++ "\x7d"

@[simp] theorem toList_numbered (number : Nat) (slot : List Char) :
    (numbered number (Slot.ofText (String.ofList slot))).toList = snippetSlot number slot := by
  have hopen : (toString "$\x7b").toList = ['$', '\x7b'] := rfl
  have hcolon : (toString ":").toList = [':'] := rfl
  simp [numbered, snippetSlot, hopen, hcolon]

/-- All views of a pattern are views of one cut. -/
structure ViewedAlong (pattern : String) (c : Cut) : Prop where
  /-- A scan finds the slots of the cut, and these are what the pattern offers values for. -/
  slots : scannedSlots? pattern.toList = some c.slots ∧
    slotsOf pattern = c.slots.map fun slot => Slot.ofText (String.ofList slot)
  /-- A scan finds the literals of the cut, one more than there are slots. -/
  literals : scannedLiterals? pattern.toList = some c.literals ∧
    c.literals.length = (slotsOf pattern).length + 1
  /-- The literals with the slots as they are written between them are the pattern. -/
  written : render pattern (c.slots.map slotText) = .ok pattern
  /-- A text matches along these literals, with a capture for each slot between them. -/
  accepted : ∀ text, accepts pattern text = true ↔ ∃ captures, Decomposes c text.toList captures
  captured : ∀ text captures, captures? pattern text = some captures →
    captures.length = (slotsOf pattern).length ∧
      Decomposes c text.toList (captures.map String.toList)
  /-- A scan that puts the token in place of each slot gives the token text, and so does rendering. -/
  token : replaced? takeToken () pattern.toList = some (tokenText pattern) ∧
    render pattern (List.replicate (slotsOf pattern).length "value") =
      .ok (String.ofList (tokenText pattern))
  /-- A scan that takes a number for each slot never runs out of them, and gives the snippet; so does
  rendering with the slots numbered from the left. -/
  snippet : replaced? takeNumber (List.range' 1 ((slotsOf pattern).length + 1)) pattern.toList =
      some (snippet pattern).toList ∧
    render pattern ((slotsOf pattern).zipIdx.map fun (slot, i) => numbered (i + 1) slot) =
      .ok (snippet pattern)

/-- A pattern has one leftmost cut, and all of its views are along this cut. -/
theorem viewedAlong_cut (pattern : String) :
    ∃ c, LeftmostCut pattern.toList c ∧ (∀ c', LeftmostCut pattern.toList c' → c' = c) ∧
      ViewedAlong pattern c := by
  have hcut := leftmostCut_cut pattern.toList
  have hcount := length_slotsOf pattern
  refine ⟨cut pattern.toList, hcut, fun c' h => h.unique hcut, ?_⟩
  constructor
  case slots => exact ⟨scannedSlots?_eq _, rfl⟩
  case literals =>
    refine ⟨scannedLiterals?_eq _, ?_⟩
    rw [hcount]
    simp [Cut.literals, Cut.slots]
  case written =>
    rw [render_eq_ok (by rw [hcount, List.length_map]), List.map_map]
    have hfill := fill_slotText (cut pattern.toList)
    rw [toText_cut] at hfill
    simp only [Function.comp_def, hfill, String.ofList_toList]
  case accepted =>
    intro text
    rw [accepts, captures?, Option.isSome_map]
    exact Cut.isSome_captures?_iff
  case captured =>
    intro text captures h
    have hd := (Cut.captures?_eq_some_iff.mp (captures?_eq_some_iff.mp h)).1
    exact ⟨by rw [hcount, ← hd.length_eq, List.length_map], hd⟩
  case token =>
    have htoken : (cut pattern.toList).fill (List.replicate (slotsOf pattern).length slotToken) =
        tokenText pattern := by
      rw [hcount, Cut.slots, List.length_map]
      rfl
    constructor
    · rw [replaced?_eq, puts?_takeToken, ← hcount, Option.map_some, htoken]
    · rw [render_eq_ok List.length_replicate, List.map_replicate]
      exact congrArg (fun text => Except.ok (String.ofList text)) htoken
  case snippet =>
    have hnumbered : ((slotsOf pattern).zipIdx.map fun (slot, i) => numbered (i + 1) slot).map
        String.toList =
          (cut pattern.toList).slots.zipIdx.map fun (slot, i) => snippetSlot (i + 1) slot := by
      simp [slotsOf, List.zipIdx_map, Function.comp_def]
    constructor
    · rw [replaced?_eq, hcount, puts?_takeNumber]
      simp [Pattern.snippet]
    · rw [render_eq_ok (by simp), hnumbered]
      rfl

example : snippet "\x7b\x7d \x7bcount:int\x7d \x7b\x7bname\x7d \x7d" =
    "\x7b\x7d $\x7b1:0\x7d $\x7b2:\x7bname\x7d \x7d" := by
  decide +kernel

end ScenarioCheck.Pattern
