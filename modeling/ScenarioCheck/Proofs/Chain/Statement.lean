import ScenarioCheck.Chain.Analysis
import ScenarioCheck.Proofs.Pattern.Slots
import ScenarioCheck.Registry.Snapshot
import ScenarioCheck.Step.Run

/-! Patterns as they are read and patterns as they are rendered. A statement renders every parameter
as the same slot, a reading names the parameter in the slot; both match the same texts with the same
captures, so a text finds the same steps in a registry and in a collection. -/
namespace ScenarioCheck

namespace Step.Statement

def partText (parameters : List Parameter) : Part → String
  | .text s => s
  | .parameter index => parameterText parameters index

@[simp] theorem pattern_template (parameters : List Parameter) (parts : List Part) :
    (template parameters parts).pattern = String.join (parts.map (partText parameters)) := by
  rw [String.join_eq_foldl, List.foldl_map]
  rfl

@[simp] theorem parameterText_single (names : List String) (index : Nat) :
    parameterText (names.map (.single · none)) index = argumentSlot := by
  have hnone : ((names.map (Parameter.single · none)).take index).any Parameter.isCollecting =
      false := by
    rw [List.any_eq_false]
    intro p hp
    obtain ⟨name, -, rfl⟩ := List.mem_map.mp (List.mem_of_mem_take hp)
    simp [Parameter.isCollecting]
  unfold parameterText
  split
  · rename_i heq
    simp at heq
  · rw [hnone]
    rfl
  · rfl

end Step.Statement

namespace Chain

open Source Scope
open Pattern (captures? IsSlot EqualUpToSlots)
open Step (Kind Statement Part Definition Collection)

/-! What a declaration says when it runs. -/

/-- The names of the parameters of a function that takes one argument by position for each. -/
def positionalNames? (ps : Parameters Expr) : Option (List String) :=
  let names := (ps.positionalOnly ++ ps.positional).map (·.name)
  if ps.rest?.isNone && ps.keywordOnly.isEmpty && ps.keywords?.isNone &&
      names.all (fun name => Lexer.isName name.toList) then some names
  else none

def part? (names : List String) : Expr → Option Part
  | .formatted _ (.name _ id) none none => (names.idxOf? id).map .parameter
  | e => (text? e).map .text

def parts? (names : List String) : Expr → Option (List Part)
  | .joined _ parts => parts.mapM (part? names)
  | e => (text? e).map fun s => [.text s]

/-- The statement that a function with some parameters and a result is. -/
def rendered? (ps : Parameters Expr) (result : Expr) : Option Statement := do
  let names ← positionalNames? ps
  let parts ← parts? names result
  return .template (names.map (.single · none)) parts

def onlyResult? (f : Function) : Option Expr :=
  match f.isAsync, f.decorators, withoutDocument f.body with
  | false, [], [.return _ (some result)] => some result
  | _, _, _ => none

/-- The statement that the argument of a builder is when it runs: a text, or a function of its
captures. -/
def statement? (r : Resolver) (argument : Located Expr) : Option Statement :=
  match text? argument.value, r.function? argument with
  | some s, _ => some (.text s)
  | none, some (.lambda l) => rendered? l.value.parameters l.value.body
  | none, some (.function f) => (onlyResult? f.value).bind (rendered? f.value.parameters)
  | none, _ => none

/-! The two patterns of a declaration. -/

theorem isSlot_argumentSlot : IsSlot "string".toList := by decide

theorem isSlot_of_isName {name : List Char} (h : Lexer.isName name = true) : IsSlot name := by
  cases name with
  | nil => cases h
  | cons c rest =>
    simp only [Lexer.isName, Bool.and_eq_true, List.all_eq_true] at h
    refine ⟨List.cons_ne_nil c rest, fun hmem => ?_⟩
    rcases List.mem_cons.mp hmem with rfl | hmem
    · exact absurd h.1 (by decide)
    · exact absurd (h.2 _ hmem) (by decide)

theorem isName_of_positionalNames? {ps : Parameters Expr} {names : List String}
    (h : positionalNames? ps = some names) {name : String} (hn : name ∈ names) :
    Lexer.isName name.toList = true := by
  simp only [positionalNames?] at h
  split at h
  · rename_i hall
    cases h
    rw [Bool.and_eq_true, List.all_eq_true] at hall
    exact hall.2 name hn
  · cases h

theorem part?_eq_some {names : List String} {e : Expr} {q : Part} (h : part? names e = some q) :
    (∃ s, text? e = some s ∧ q = .text s) ∨
      ∃ p p' name index, e = .formatted p (.name p' name) none none ∧ name ∈ names ∧
        q = .parameter index := by
  unfold part? at h
  split at h
  · rename_i p p' name
    obtain ⟨index, hi, rfl⟩ := Option.map_eq_some_iff.mp h
    exact .inr ⟨p, p', name, index, rfl, List.isSome_idxOf?.mp (by rw [hi]; rfl), rfl⟩
  · obtain ⟨s, hs, rfl⟩ := Option.map_eq_some_iff.mp h
    exact .inl ⟨s, hs, rfl⟩

theorem templateParts?_cons_text {e : Expr} {s : String} (h : text? e = some s)
    (rest : List Expr) :
    templateParts? (e :: rest) = (templateParts? rest).map (s :: ·) := by
  unfold text? at h
  split at h
  · cases h
    simp only [templateParts?, text?, bind, Option.bind]
    cases templateParts? rest <;> rfl
  · cases h

@[simp] theorem templateParts?_cons_name (p p' : Position) (name : String) (rest : List Expr) :
    templateParts? (.formatted p (.name p' name) none none :: rest) =
      (templateParts? rest).map (("\x7b" ++ name ++ "\x7d") :: ·) := by
  simp only [templateParts?, bind, Option.bind]
  cases templateParts? rest <;> rfl

theorem templateParts?_of_parts {names : List String}
    (hn : ∀ name ∈ names, Lexer.isName name.toList = true) {parts : List Expr} {qs : List Part}
    (h : parts.mapM (part? names) = some qs) :
    ∃ texts, templateParts? parts = some texts ∧ EqualUpToSlots (String.join texts).toList
      (String.join (qs.map (Statement.partText (names.map (.single · none))))).toList := by
  induction parts generalizing qs with
  | nil =>
    cases h
    exact ⟨[], rfl, .nil⟩
  | cons e parts ih =>
    rw [List.mapM_cons] at h
    obtain ⟨q, hq, h⟩ := Option.bind_eq_some_iff.mp h
    obtain ⟨rest, hrest, h⟩ := Option.bind_eq_some_iff.mp h
    cases h
    obtain ⟨texts, ht, halike⟩ := ih hrest
    rcases part?_eq_some hq with ⟨s, hs, rfl⟩ | ⟨p, p', name, index, rfl, hname, rfl⟩
    · refine ⟨s :: texts, by rw [templateParts?_cons_text hs, ht]; rfl, ?_⟩
      simp only [List.map_cons, String.join_cons, String.toList_append]
      exact halike.append_left s.toList
    · refine ⟨_, by rw [templateParts?_cons_name, ht]; rfl, ?_⟩
      have hslot := EqualUpToSlots.slot (isSlot_of_isName (hn name hname)) isSlot_argumentSlot halike
      have harg : Statement.argumentSlot.toList = '{' :: ("string".toList ++ ['}']) := rfl
      simp only [List.map_cons, String.join_cons, String.toList_append, Statement.partText,
        Statement.parameterText_single, harg]
      simpa using hslot

theorem template?_of_text? {e : Expr} {s : String} (h : text? e = some s) :
    template? e = some s := by
  unfold template?
  split
  · cases h
  · exact h

theorem template?_of_rendered {ps : Parameters Expr} {result : Expr} {st : Statement}
    (h : rendered? ps result = some st) :
    ∃ p, template? result = some p ∧ captures? p = captures? st.pattern := by
  obtain ⟨names, hnames, h⟩ := Option.bind_eq_some_iff.mp h
  obtain ⟨qs, hqs, h⟩ := Option.bind_eq_some_iff.mp h
  cases h
  rw [Statement.pattern_template]
  unfold parts? at hqs
  split at hqs
  · rename_i p parts
    obtain ⟨texts, ht, halike⟩ :=
      templateParts?_of_parts (fun name => isName_of_positionalNames? hnames) hqs
    exact ⟨String.join texts, by simp [template?, ht], Pattern.captures?_eq halike⟩
  · rename_i hjoined
    obtain ⟨s, hs, rfl⟩ := Option.map_eq_some_iff.mp hqs
    exact ⟨s, template?_of_text? hs, by simp [Statement.partText, String.join]⟩

theorem firstReturn?_of_onlyResult? {f : Function} {result : Expr}
    (h : onlyResult? f = some result) : firstReturn? f.body = some result := by
  unfold onlyResult? at h
  split at h
  · rename_i p result' _ _ hbody
    cases h
    unfold withoutDocument at hbody
    split at hbody
    · rename_i heq
      rw [heq, hbody]
      rfl
    · rw [hbody]
      rfl
  · cases h

theorem template?_of_function? {r : Resolver} {argument : Located Expr} {body : Body}
    (h : r.function? argument = some body) : template? argument.value = none := by
  unfold Resolver.function? at h
  split at h
  · rename_i heq
    rw [heq]
    rfl
  · rename_i heq
    rw [heq]
    rfl
  · rename_i heq
    rw [heq]
    rfl
  · cases h

theorem pattern?_of_statement? {r : Resolver} {argument : Located Expr} {st : Statement}
    (h : statement? r argument = some st) :
    ∃ p, pattern? r argument = some p ∧ captures? p = captures? st.pattern := by
  unfold statement? at h
  split at h
  · rename_i s hs
    cases h
    exact ⟨s, by simp [pattern?, template?_of_text? hs], rfl⟩
  · rename_i l _ hl
    obtain ⟨p, hp, heq⟩ := template?_of_rendered h
    exact ⟨p, by simp [pattern?, template?_of_function? hl, hl, hp], heq⟩
  · rename_i f _ hf
    obtain ⟨result, hresult, h⟩ := Option.bind_eq_some_iff.mp h
    obtain ⟨p, hp, heq⟩ := template?_of_rendered h
    have hreturn := firstReturn?_of_onlyResult? hresult
    exact ⟨p, by simp [pattern?, template?_of_function? hf, hf, hreturn, hp], heq⟩
  · cases h

/-! Steps found by their text. -/

def positions {α : Type} (p : α → Bool) (xs : List α) : List Nat :=
  (List.range xs.length).filter fun n => xs[n]?.any p

@[simp] theorem positions_cons {α : Type} (p : α → Bool) (x : α) (xs : List α) :
    positions p (x :: xs) = (if p x then [0] else []) ++ (positions p xs).map (· + 1) := by
  unfold positions
  rw [List.length_cons, List.range_succ_eq_map, List.filter_cons, List.filter_map]
  by_cases hx : p x <;> simp [hx, Function.comp_def]

theorem filter_eq_positions {α : Type} (p : α → Bool) (xs : List α) :
    xs.filter p = (positions p xs).filterMap (xs[·]?) := by
  induction xs with
  | nil => rfl
  | cons x xs ih =>
    rw [positions_cons, List.filterMap_append, List.filterMap_map, List.filter_cons, ih]
    by_cases hx : p x <;> simp [hx]

@[simp] theorem positions_map {α β : Type} (f : α → β) (p : β → Bool) (xs : List α) :
    positions p (xs.map f) = positions (fun x => p (f x)) xs := by
  simp [positions, Option.any_map]

theorem pairwise_positions {α : Type} (p : α → Bool) (xs : List α) :
    (positions p xs).Pairwise (· < ·) :=
  List.pairwise_lt_range.filter _

theorem lt_length_of_mem_positions {α : Type} {p : α → Bool} {xs : List α} {n : Nat}
    (h : n ∈ positions p xs) : n < xs.length :=
  List.mem_range.mp (List.mem_filter.mp h).1

structure Declaration where
  resolver : Resolver
  root : Root
  argument : Expr
  statement : Statement
  arguments_eq : root.arguments = [argument]
  keywords_eq : root.keywords = []
  statement_eq : statement? resolver ⟨root.site, argument⟩ = some statement

structure DeclaredStep extends Declaration where
  file : String
  definition : Definition
  step : Step.Runnable
  step_statement : step.statement = statement
  definition_eq : (root.analyze resolver step.kind).definition? file = some definition

theorem Declaration.readPattern_eq (c : Declaration) :
    ∃ p, c.root.readPattern c.resolver = ⟨some p, []⟩ ∧ captures? p = captures? c.statement.pattern := by
  obtain ⟨p, hp, heq⟩ := pattern?_of_statement? c.statement_eq
  exact ⟨p, by simp [Root.readPattern, c.arguments_eq, c.keywords_eq, hp], heq⟩

theorem Analysis.definition?_eq_some {a : Analysis} {file : String} {d : Definition}
    (h : a.definition? file = some d) :
    a.pattern? = some d.pattern ∧ d.kind = a.kind ∧ d.location.file = file := by
  unfold definition? at h
  split at h
  · cases h
  · rename_i p hp
    split at h
    · cases h
    · cases h
      exact ⟨hp, rfl, rfl⟩

@[simp] theorem Root.kind_analyze (r : Resolver) (kind : Kind) (root : Root) :
    (root.analyze r kind).kind = kind := by
  unfold analyze
  dsimp only
  split <;> rfl

theorem Root.pattern?_analyze {r : Resolver} {kind : Kind} {root : Root} {p : String}
    (h : (root.analyze r kind).pattern? = some p) : (root.readPattern r).value = some p := by
  unfold analyze at h
  dsimp only at h
  split at h
  · cases h
  · exact h

namespace DeclaredStep

@[simp] theorem captures?_eq (t : DeclaredStep) :
    captures? t.definition.pattern = captures? t.step.statement.pattern := by
  obtain ⟨p, hp, heq⟩ := t.readPattern_eq
  obtain ⟨hread, -, -⟩ := Analysis.definition?_eq_some t.definition_eq
  have hpattern := Root.pattern?_analyze hread
  rw [hp] at hpattern
  cases hpattern
  rw [heq, t.step_statement]

@[simp] theorem kind_eq (t : DeclaredStep) : t.definition.kind = t.step.kind := by
  obtain ⟨-, hkind, -⟩ := Analysis.definition?_eq_some t.definition_eq
  rw [hkind, Root.kind_analyze]

theorem found_iff (t : DeclaredStep) (kind : Kind) (text : String) :
    (t.definition.kind == kind && Pattern.accepts t.definition.pattern text) =
      (t.step.kind == kind && Pattern.accepts t.step.statement.pattern text) := by
  unfold Pattern.accepts
  rw [t.kind_eq, t.captures?_eq]

end DeclaredStep

/-- The pattern that is read off a declaration and the pattern that its statement renders match the
same texts with the same captures, and a text finds the definitions and the steps of a list of chains
at the same positions. -/
theorem patterns_agree :
    (∀ c : Declaration, ∃ p, c.root.readPattern c.resolver = ⟨some p, []⟩ ∧
      ∀ text, captures? p text = captures? c.statement.pattern text) ∧
    ∀ (ts : List DeclaredStep) (version : Nat) (kind : Kind) (text : String), ∃ ns : List Nat,
      ns.Pairwise (· < ·) ∧ (∀ n ∈ ns, n < ts.length) ∧
      Snapshot.matching ⟨version, ts.map (·.definition)⟩ kind text =
        ns.filterMap ((ts.map (·.definition))[·]?) ∧
      Collection.find (ts.map (·.step)) kind text = ns.filterMap ((ts.map (·.step))[·]?) := by
  constructor
  · intro c
    obtain ⟨p, hp, heq⟩ := c.readPattern_eq
    exact ⟨p, hp, congrFun heq⟩
  · intro ts version kind text
    refine ⟨positions (fun t => t.step.kind == kind &&
        Pattern.accepts t.step.statement.pattern text) ts, pairwise_positions _ ts,
      fun n hn => lt_length_of_mem_positions hn, ?_, ?_⟩
    · simp only [← DeclaredStep.found_iff]
      rw [Snapshot.matching, filter_eq_positions, positions_map]
    · rw [Collection.find, filter_eq_positions, positions_map]

/-- A chain whose pattern is a function of two parameters, with an opening brace in front of the one
that it names twice. -/
def sampleRoot : Root where
  site := default
  position := ⟨1, 0⟩
  callee := .name ⟨1, 0⟩ "GivenBuilder"
  arguments := [.lambda ⟨1, 13⟩ { positional := [⟨⟨1, 20⟩, "name", none, none⟩,
      ⟨⟨1, 26⟩, "count", none, none⟩] }
    (.joined ⟨1, 33⟩ [.constant ⟨1, 33⟩ (.text "\x7b of "),
      .formatted ⟨1, 33⟩ (.name ⟨1, 42⟩ "name") none none, .constant ⟨1, 33⟩ (.text " is "),
      .formatted ⟨1, 33⟩ (.name ⟨1, 52⟩ "name") none none])]
  keywords := []
  outward := [⟨"step", ⟨1, 0⟩, some ⟨⟨1, 0⟩, [.name ⟨1, 65⟩ "body"], []⟩⟩]

def unresolved : Resolver := ⟨fun _ => none, fun _ => [], fun _ _ => []⟩

def sampleDeclaredStep : DeclaredStep where
  resolver := unresolved
  root := sampleRoot
  argument := sampleRoot.arguments.head (by decide)
  statement := .template [.single "name" none, .single "count" none]
    [.text "\x7b of ", .parameter 0, .text " is ", .parameter 0]
  arguments_eq := rfl
  keywords_eq := rfl
  statement_eq := by rfl
  file := "s.py"
  definition := ⟨"\x7b of \x7bname\x7d is \x7bname\x7d", .given, ⟨"s.py", 1, 1⟩, [], none⟩
  step := ⟨.given, .template [.single "name" none, .single "count" none]
    [.text "\x7b of ", .parameter 0, .text " is ", .parameter 0], [], ⟨false, fun _ => .ok .none⟩, none⟩
  step_statement := rfl
  definition_eq := by rfl

theorem patterns_agree_sampleDeclaredStep :
    captures? sampleDeclaredStep.definition.pattern "x is y" = some ["x", "y"] ∧
      captures? sampleDeclaredStep.statement.pattern "x is y" = some ["x", "y"] ∧
      ∃ ns : List Nat, Snapshot.matching ⟨0, [sampleDeclaredStep.definition]⟩ .given "x is y" =
          ns.filterMap ([sampleDeclaredStep.definition][·]?) ∧
        Collection.find [sampleDeclaredStep.step] .given "x is y" =
          ns.filterMap ([sampleDeclaredStep.step][·]?) := by
  have hread : captures? sampleDeclaredStep.definition.pattern "x is y" = some ["x", "y"] := by
    decide +kernel
  have hrendered : captures? sampleDeclaredStep.statement.pattern "x is y" = some ["x", "y"] := by
    decide +kernel
  obtain ⟨ns, -, -, hm, hf⟩ := patterns_agree.2 [sampleDeclaredStep] 0 .given "x is y"
  exact ⟨hread, hrendered, ns, hm, hf⟩

end Chain
end ScenarioCheck
