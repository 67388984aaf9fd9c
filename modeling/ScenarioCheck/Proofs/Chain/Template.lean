import ScenarioCheck.Proofs.Chain.Statement
import ScenarioCheck.Proofs.Source.Printed

/-! Patterns read off templates. Each embedded expression is a slot of the pattern, exactly if none is
written with a closing brace: such a brace ends the slot within the expression. -/
namespace ScenarioCheck.Chain

open Source Scope
open Pattern (Cut cut accepts Decomposes IsSlot)

structure Segments where
  head : String
  fields : List (Expr × String)

namespace Segments

/-- The segments of the parts of a template; fixed texts that follow each other are one. -/
def ofParts? : List Expr → Option Segments
  | [] => some ⟨"", []⟩
  | .formatted _ value _ _ :: rest =>
    (ofParts? rest).map fun t => ⟨"", (value, t.head) :: t.fields⟩
  | e :: rest => (text? e).bind fun s => (ofParts? rest).map fun t => ⟨s ++ t.head, t.fields⟩

variable (t : Segments)

def literals : List String := t.head :: t.fields.map (·.2)

def embedded : List Expr := t.fields.map (·.1)

/-- The cut that has a slot for each embedded expression, with the text it is written as. -/
def toCut : Cut := ⟨t.head.toList, t.fields.map fun field => (field.1.shown.toList, field.2.toList)⟩

@[simp] theorem literals_toCut : t.toCut.literals = t.literals.map String.toList := by
  simp [toCut, Cut.literals, literals, Function.comp_def]

@[simp] theorem slots_toCut : t.toCut.slots = t.embedded.map (·.shown.toList) := by
  simp [toCut, Cut.slots, embedded, Function.comp_def]

end Segments

theorem templateParts?_of_ofParts? {parts : List Expr} {t : Segments}
    (h : Segments.ofParts? parts = some t) :
    ∃ texts, templateParts? parts = some texts ∧ (String.join texts).toList = t.toCut.toText := by
  fun_induction Segments.ofParts? parts generalizing t with
  | case1 =>
    cases h
    exact ⟨[], rfl, by simp [Segments.toCut, Cut.toText]⟩
  | case2 p value conversion? spec? rest ih =>
    obtain ⟨rest', hrest, rfl⟩ := Option.map_eq_some_iff.mp h
    obtain ⟨texts, htexts, hjoin⟩ := ih hrest
    refine ⟨_, by simp only [templateParts?, htexts]; rfl, ?_⟩
    simp [Segments.toCut, hjoin]
  | case3 e rest he ih =>
    obtain ⟨s, hs, h⟩ := Option.bind_eq_some_iff.mp h
    obtain ⟨rest', hrest, rfl⟩ := Option.map_eq_some_iff.mp h
    obtain ⟨texts, htexts, hjoin⟩ := ih hrest
    refine ⟨s :: texts, by rw [templateParts?_cons_text hs, htexts]; rfl, ?_⟩
    simp [Segments.toCut, Cut.toText, hjoin]

/-- The expression that a pattern is read off: the argument, or the result of the function it is. -/
def patternSource? (r : Resolver) (argument : Located Expr) : Option Expr :=
  match r.function? argument with
  | none => some argument.value
  | some (.function f) => firstReturn? f.value.body
  | some (.lambda l) => some l.value.body
  | some .empty => none

theorem pattern?_eq (r : Resolver) (argument : Located Expr) :
    pattern? r argument = (patternSource? r argument).bind template? := by
  unfold pattern? patternSource?
  cases h : r.function? argument with
  | none => simp
  | some body => cases body <;> simp [template?_of_function? h]

theorem readPattern_of_ofParts? {r : Resolver} {root : Root} {argument : Expr} {p : Position}
    {parts : List Expr} {t : Segments} (harguments : root.arguments = [argument])
    (hkeywords : root.keywords = [])
    (hsource : patternSource? r ⟨root.site, argument⟩ = some (.joined p parts))
    (ht : Segments.ofParts? parts = some t) :
    root.readPattern r = ⟨some (String.ofList t.toCut.toText), []⟩ := by
  obtain ⟨texts, htexts, hjoin⟩ := templateParts?_of_ofParts? ht
  have hpattern : pattern? r ⟨root.site, argument⟩ = some (String.ofList t.toCut.toText) := by
    rw [pattern?_eq, hsource, ← hjoin, String.ofList_toList]
    simp [template?, htexts]
  simp [Root.readPattern, harguments, hkeywords, hpattern]

namespace Segments

variable {t : Segments} (hw : ∀ e ∈ t.embedded, e.isWritten = true)
include hw

theorem isSlot_iff : (∀ slot ∈ t.toCut.slots, IsSlot slot) ↔
    ∀ e ∈ t.embedded, e.closesBrace = false := by
  rw [slots_toCut, List.forall_mem_map]
  refine forall_congr' fun e => forall_congr' fun he => ?_
  rw [IsSlot, Expr.closing_mem_shown_iff, Bool.not_eq_true]
  exact and_iff_right (Expr.toList_shown_ne_nil (hw e he))

end Segments

/-- The start of a chain whose pattern is read off a template that holds no braces in its fixed text,
and embeds what can be written. -/
structure TemplateRoot where
  resolver : Resolver
  root : Root
  argument : Expr
  position : Position
  parts : List Expr
  segments : Segments
  arguments_eq : root.arguments = [argument]
  keywords_eq : root.keywords = []
  source_eq : patternSource? resolver ⟨root.site, argument⟩ = some (.joined position parts)
  segments_eq : Segments.ofParts? parts = some segments
  braceFree : ∀ literal ∈ segments.literals, '{' ∉ literal.toList ∧ '}' ∉ literal.toList
  isWritten : ∀ e ∈ segments.embedded, e.isWritten = true

/-- A pattern has the fixed texts of its template between its slots exactly if no embedded expression
is written with a closing brace. Then the slots are the expressions as they are written, and a text
matches exactly if it is the fixed texts, up to case, with something on one line between them. -/
theorem template_keeps_shape (d : TemplateRoot) :
    ∃ pattern, d.root.readPattern d.resolver = ⟨some pattern, []⟩ ∧
      ((cut pattern.toList).literals = d.segments.literals.map String.toList ↔
        ∀ e ∈ d.segments.embedded, e.closesBrace = false) ∧
      ((∀ e ∈ d.segments.embedded, e.closesBrace = false) →
        (cut pattern.toList).slots = d.segments.embedded.map (·.shown.toList) ∧
        ∀ text, accepts pattern text = true ↔
          ∃ values, Decomposes d.segments.toCut text.toList values) := by
  have hbraces : ∀ literal ∈ d.segments.toCut.literals, '{' ∉ literal ∧ '}' ∉ literal := by
    rw [Segments.literals_toCut, List.forall_mem_map]
    exact d.braceFree
  refine ⟨_, readPattern_of_ofParts? d.arguments_eq d.keywords_eq d.source_eq d.segments_eq, ?_⟩
  rw [String.toList_ofList, ← Segments.literals_toCut, Pattern.literals_cut_toText_iff hbraces,
    Segments.isSlot_iff d.isWritten]
  refine ⟨.rfl, fun h => ?_⟩
  have hcut := Pattern.cut_toText (fun literal hl => (hbraces literal hl).1)
    ((Segments.isSlot_iff d.isWritten).mpr h)
  refine ⟨by rw [hcut, Segments.slots_toCut], fun text => ?_⟩
  rw [accepts, Pattern.captures?, Option.isSome_map, String.toList_ofList, hcut,
    Cut.isSome_captures?_iff]

def rootOfParts (parts : List Expr) : Root :=
  ⟨default, ⟨1, 0⟩, .name ⟨1, 0⟩ "GivenBuilder", [.joined ⟨1, 13⟩ parts], [], []⟩

def sampleTemplate : TemplateRoot where
  resolver := unresolved
  root := rootOfParts [.constant ⟨1, 13⟩ (.text "the "),
    .formatted ⟨1, 13⟩ (.call ⟨1, 20⟩ (.name ⟨1, 20⟩ "role") [.name ⟨1, 25⟩ "user"] []) none none,
    .constant ⟨1, 13⟩ (.text " sees "),
    .formatted ⟨1, 13⟩ (.comprehension ⟨1, 38⟩ .list (.name ⟨1, 39⟩ "p")
      [⟨false, .name ⟨1, 45⟩ "p", .name ⟨1, 50⟩ "pages", []⟩]) none none]
  argument := _
  position := _
  parts := _
  segments := ⟨"the ", [(.call ⟨1, 20⟩ (.name ⟨1, 20⟩ "role") [.name ⟨1, 25⟩ "user"] [], " sees "),
    (.comprehension ⟨1, 38⟩ .list (.name ⟨1, 39⟩ "p")
      [⟨false, .name ⟨1, 45⟩ "p", .name ⟨1, 50⟩ "pages", []⟩], "")]⟩
  arguments_eq := rfl
  keywords_eq := rfl
  source_eq := rfl
  segments_eq := rfl
  braceFree := by decide
  isWritten := by decide

theorem template_keeps_shape_sampleTemplate :
    ∃ pattern, sampleTemplate.root.readPattern unresolved = ⟨some pattern, []⟩ ∧
      (cut pattern.toList).slots = ["role(user)".toList, "[p for p in pages]".toList] ∧
      accepts pattern "The admin sees all of them" = true := by
  obtain ⟨pattern, hread, -, hshape⟩ := template_keeps_shape sampleTemplate
  obtain ⟨hslots, haccepts⟩ := hshape (by decide)
  refine ⟨pattern, hread, hslots.trans (by decide +kernel), (haccepts _).mpr ?_⟩
  exact Cut.isSome_captures?_iff.mp (by decide +kernel)

def sampleDisplay : TemplateRoot where
  resolver := unresolved
  root := rootOfParts [.constant ⟨1, 13⟩ (.text "c "),
    .formatted ⟨1, 13⟩ (.set ⟨1, 19⟩ [.constant ⟨1, 20⟩ (.int 1)]) none none,
    .constant ⟨1, 13⟩ (.text " d")]
  argument := _
  position := _
  parts := _
  segments := ⟨"c ", [(.set ⟨1, 19⟩ [.constant ⟨1, 20⟩ (.int 1)], " d")]⟩
  arguments_eq := rfl
  keywords_eq := rfl
  source_eq := rfl
  segments_eq := rfl
  braceFree := by decide
  isWritten := by decide

/-- The slot ends at the brace of the display, and the brace that should end it is left in the text. -/
theorem template_loses_shape_of_display :
    ∃ pattern, sampleDisplay.root.readPattern unresolved = ⟨some pattern, []⟩ ∧
      cut pattern.toList = ⟨"c ".toList, [("\x7b1".toList, "\x7d d".toList)]⟩ ∧
      accepts pattern "c 1 d" = false ∧
      ∃ values, Decomposes sampleDisplay.segments.toCut "c 1 d".toList values := by
  refine ⟨"c \x7b\x7b1\x7d\x7d d", by rfl, by decide +kernel, by decide +kernel, ?_⟩
  exact Cut.isSome_captures?_iff.mp (by decide +kernel)

end ScenarioCheck.Chain
