import ScenarioCheck.Infer.Arithmetic
import ScenarioCheck.Scope.Return

/-! The ways a body runs, as far as its statements tell. A test comes out either way unless it is a
literal, any case of a match may be met, a context may hold back what is raised in it, and every
statement may raise. A run that returns does so with a return that is found for the body. -/
namespace ScenarioCheck.Scope

open Source

/-- How a run of statements ends: behind the last of them, or where it leaves them. -/
inductive Exit where
  | passes
  | returns (value? : Option Expr)
  | breaks
  | continues
  | raises
  deriving Inhabited, Repr

namespace Exit

/-- A loop may go another round after its body ended so. -/
def endsRound : Exit → Bool
  | .passes | .continues => true
  | _ => false

/-- A loop is left for good where its body ends so. -/
def leavesLoop : Exit → Bool
  | .returns _ | .raises => true
  | _ => false

/-- What follows in any case decides where it does not pass. -/
def lastly (e : Exit) : Exit → Exit
  | .passes => e
  | last => last

end Exit

def mayBe (b : Bool) : Expr → Bool
  | .constant _ value => Infer.isTrue value == b
  | _ => true

/-- A loop: whether it may go on and come to an end, and what runs then. -/
structure Loop where
  mayGo : Bool
  mayEnd : Bool
  body : List Stmt
  orelse : List Stmt

def loop? : Stmt → Option Loop
  | .while _ test body orelse => some ⟨mayBe true test, mayBe false test, body, orelse⟩
  | .for _ _ _ _ body orelse => some ⟨true, true, body, orelse⟩
  | _ => none

/-- Statements that hold no others that run with them, and go on to the next. -/
def isSimple : Stmt → Bool
  | .expr .. | .assign .. | .augmented .. | .annotated .. | .delete .. | .assert .. | .global ..
  | .nonlocal .. | .pass _ | .import .. | .importFrom .. | .function .. | .class .. => true
  | _ => false

/-- Statements may run in a way that ends so. -/
inductive Runs : List Stmt → Exit → Prop
  | nil : Runs [] .passes
  | cons {st next rest e} (hst : Runs [st] .passes) (hrest : Runs (next :: rest) e) :
      Runs (st :: next :: rest) e
  | stop {st e} (next : Stmt) (rest : List Stmt) (hst : Runs [st] e) (he : e ≠ .passes) :
      Runs (st :: next :: rest) e
  | raise (st : Stmt) : Runs [st] .raises
  | simple {st} (h : isSimple st = true) : Runs [st] .passes
  | return (p : Position) (value? : Option Expr) : Runs [.return p value?] (.returns value?)
  | break (p : Position) : Runs [.break p] .breaks
  | continue (p : Position) : Runs [.continue p] .continues
  | ifYes {p test body orelse e} (ht : mayBe true test = true) (hbody : Runs body e) :
      Runs [.if p test body orelse] e
  | ifNo {p test body orelse e} (ht : mayBe false test = true) (horelse : Runs orelse e) :
      Runs [.if p test body orelse] e
  /-- A loop comes to its end, and what follows it runs. -/
  | loopEnds {st l e} (hl : loop? st = some l) (ht : l.mayEnd = true) (horelse : Runs l.orelse e) :
      Runs [st] e
  /-- Another round, and the rest of the loop. -/
  | loopGoes {st l e e'} (hl : loop? st = some l) (ht : l.mayGo = true) (hbody : Runs l.body e)
      (he : e.endsRound = true) (hst : Runs [st] e') : Runs [st] e'
  /-- A round breaks off, and what follows the end is left out. -/
  | loopBreaks {st l} (hl : loop? st = some l) (ht : l.mayGo = true) (hbody : Runs l.body .breaks) :
      Runs [st] .passes
  | loopLeft {st l e} (hl : loop? st = some l) (ht : l.mayGo = true) (hbody : Runs l.body e)
      (he : e.leavesLoop = true) : Runs [st] e
  | tryUnfailed {p body handlers orelse final e last} (hbody : Runs body .passes)
      (horelse : Runs orelse e) (hfinal : Runs final last) :
      Runs [.try p body handlers orelse final] (e.lastly last)
  /-- Any handler may take what is raised. -/
  | tryCaught {p body handlers orelse final e last} {h : Handler Stmt} (hbody : Runs body .raises)
      (hmem : h ∈ handlers) (hhandler : Runs h.body e) (hfinal : Runs final last) :
      Runs [.try p body handlers orelse final] (e.lastly last)
  /-- The body is left in another way, or nothing takes what it raised. -/
  | tryLeft {p body handlers orelse final e last} (hbody : Runs body e) (he : e ≠ .passes)
      (hfinal : Runs final last) : Runs [.try p body handlers orelse final] (e.lastly last)
  | with {p isAsync resources body e} (hbody : Runs body e) :
      Runs [.with p isAsync resources body] e
  | withHeld {p isAsync resources body} (hbody : Runs body .raises) :
      Runs [.with p isAsync resources body] .passes
  | matchCase {p subject cases e} {c : Case Stmt} (hmem : c ∈ cases) (hbody : Runs c.body e) :
      Runs [.match p subject cases] e
  | matchNone {p subject cases} : Runs [.match p subject cases] .passes

def HasReturn (body : List Stmt) (value? : Option Expr) : Prop :=
  ∀ s b, ∃ x ∈ returnsOfBlock s b body, x.value = value?

section

variable {body rest : List Stmt} {st : Stmt} {value? : Option Expr}

theorem HasReturn.head (h : HasReturn [st] value?) (rest : List Stmt) :
    HasReturn (st :: rest) value? := by
  intro s b
  obtain ⟨x, hx, hvalue⟩ := h s b
  rw [returnsOfBlock, returnsOfBlock, List.append_nil] at hx
  exact ⟨x, List.mem_append_left _ hx, hvalue⟩

theorem HasReturn.tail (h : HasReturn rest value?) (st : Stmt) : HasReturn (st :: rest) value? := by
  intro s b
  obtain ⟨x, hx, hvalue⟩ := h s b
  exact ⟨x, List.mem_append_right _ hx, hvalue⟩

theorem HasReturn.of_part (h : HasReturn body value?)
    (hpart : ∀ s, ∃ s' b, returnsOfBlock s' b body ⊆ returns s st) : HasReturn [st] value? := by
  intro s b
  obtain ⟨s', b', hsubset⟩ := hpart (s.inner b st.position (lineOf st))
  obtain ⟨x, hx, hvalue⟩ := h s' b'
  exact ⟨x, List.mem_append_left _ (hsubset hx), hvalue⟩

theorem returnsOfBlock_subset_handlers {handlers : List (Handler Stmt)} {h : Handler Stmt}
    (hmem : h ∈ handlers) (s : Site) (i : Nat) :
    ∃ s' b, returnsOfBlock s' b h.body ⊆ returnsOfHandlers s i handlers := by
  induction handlers generalizing i with
  | nil => cases hmem
  | cons first handlers ih =>
    rcases List.mem_cons.mp hmem with rfl | hmem
    · exact ⟨_, _, List.subset_append_left _ _⟩
    · obtain ⟨s', b, hsubset⟩ := ih hmem (i + 1)
      exact ⟨s', b, List.Subset.trans hsubset (List.subset_append_right _ _)⟩

theorem returnsOfBlock_subset_cases {cases : List (Case Stmt)} {c : Case Stmt} (hmem : c ∈ cases)
    (s : Site) (i : Nat) : ∃ s' b, returnsOfBlock s' b c.body ⊆ returnsOfCases s i cases := by
  induction cases generalizing i with
  | nil => cases hmem
  | cons first cases ih =>
    rcases List.mem_cons.mp hmem with rfl | hmem
    · exact ⟨_, _, List.subset_append_left _ _⟩
    · obtain ⟨s', b, hsubset⟩ := ih hmem (i + 1)
      exact ⟨s', b, List.Subset.trans hsubset (List.subset_append_right _ _)⟩

theorem returnsOfBlock_subset_loop {l : Loop} (hl : loop? st = some l) (s : Site) :
    returnsOfBlock s .body l.body ⊆ returns s st ∧ returnsOfBlock s .body l.orelse ⊆ returns s st := by
  cases st <;> cases hl <;> exact ⟨List.subset_append_left _ _, List.subset_append_right _ _⟩

end

theorem Exit.eq_returns_of_lastly {e last : Exit} {value? : Option Expr}
    (h : e.lastly last = .returns value?) : e = .returns value? ∨ last = .returns value? := by
  cases last <;> first | exact .inl h | exact .inr h

theorem Runs.hasReturn {body : List Stmt} {value? : Option Expr}
    (h : Runs body (.returns value?)) : HasReturn body value? := by
  -- the exit is an index of the relation, so the induction is on runs that end in any way
  generalize he : Exit.returns value? = e at h
  induction h with
  | nil | raise | simple | «break» | «continue» | loopBreaks | withHeld | matchNone => cases he
  | cons _ _ _ ih => exact (ih he).tail _
  | stop next rest _ _ ih => exact (ih he).head (next :: rest)
  | «return» =>
    cases he
    exact fun s b => ⟨_, .head _, rfl⟩
  | ifYes _ _ ih => exact (ih he).of_part fun s => ⟨s, .yes, List.subset_append_left _ _⟩
  | ifNo _ _ ih => exact (ih he).of_part fun s => ⟨s, .no, List.subset_append_right _ _⟩
  | loopEnds hl _ _ ih =>
    exact (ih he).of_part fun s => ⟨s, .body, (returnsOfBlock_subset_loop hl s).2⟩
  | loopGoes _ _ _ _ _ _ ih => exact ih he
  | loopLeft hl _ _ _ ih =>
    exact (ih he).of_part fun s => ⟨s, .body, (returnsOfBlock_subset_loop hl s).1⟩
  | @tryUnfailed p body handlers orelse final _ _ _ _ _ _ ihorelse ihfinal =>
    rcases Exit.eq_returns_of_lastly he.symm with he | he
    · exact (ihorelse he.symm).of_part fun s => ⟨s, .unfailed, fun x hx => by simp [returns, hx]⟩
    · exact (ihfinal he.symm).of_part fun s => ⟨s, .final, List.subset_append_right _ _⟩
  | tryCaught _ hmem _ _ _ ihhandler ihfinal =>
    rcases Exit.eq_returns_of_lastly he.symm with he | he
    · refine (ihhandler he.symm).of_part fun s => ?_
      obtain ⟨s', b, hsubset⟩ := returnsOfBlock_subset_handlers hmem s 0
      exact ⟨s', b, fun x hx => by simp [returns, hsubset hx]⟩
    · exact (ihfinal he.symm).of_part fun s => ⟨s, .final, List.subset_append_right _ _⟩
  | tryLeft _ _ _ ihbody ihfinal =>
    rcases Exit.eq_returns_of_lastly he.symm with he | he
    · exact (ihbody he.symm).of_part fun s => ⟨s, .tried, fun x hx => by simp [returns, hx]⟩
    · exact (ihfinal he.symm).of_part fun s => ⟨s, .final, List.subset_append_right _ _⟩
  | «with» _ ih => exact (ih he).of_part fun s => ⟨s, .body, List.Subset.refl _⟩
  | matchCase hmem _ ih => exact (ih he).of_part fun s => returnsOfBlock_subset_cases hmem s 0

/-! Runs that reach the end. -/

theorem Runs.not_passes_return (p : Position) (value? : Option Expr) :
    ¬ Runs [.return p value?] .passes := by
  intro h
  cases h with
  | simple h | loopEnds h | loopGoes h | loopBreaks h => cases h
  | loopLeft h => cases h

theorem Runs.not_passes_concat {last : Stmt} (h : ¬ Runs [last] .passes) (before : List Stmt) :
    ¬ Runs (before ++ [last]) .passes := by
  induction before with
  | nil => exact h
  | cons st before ih =>
    obtain ⟨next, rest, heq⟩ := List.exists_cons_of_ne_nil (List.concat_ne_nil last before)
    rw [List.cons_append, heq]
    rw [heq] at ih
    intro hruns
    cases hruns with
    | cons _ hrest => exact ih hrest
    | stop _ _ _ he => exact he rfl

end ScenarioCheck.Scope
