import ScenarioCheck.Scope.Node

/-! The expressions of a module that stand on their own: those that its statements hold, and the parts
of them, but for what an attribute is taken of and for an attribute that is called. A call is found with
the accesses that are written outward on it up to the expression that stands on its own: those are its
own ones, all of them, and no others. -/
namespace ScenarioCheck.Scope

open Source

def Site.all (s : Site) (es : List Expr) : List (Located Expr) := es.map (⟨s, ·⟩)

mutual

def targetParts : Expr → List Expr
  | .attribute _ value _ => [value]
  | .subscript _ value index => [value, index]
  | .tuple _ items => targetPartsOfAll items
  | .list _ items => targetPartsOfAll items
  | .starred _ value => targetParts value
  | _ => []

def targetPartsOfAll : List Expr → List Expr
  | [] => []
  | e :: rest => targetParts e ++ targetPartsOfAll rest

end

def entryParts (entry : Option Expr × Expr) : List Expr := entry.1.toList ++ [entry.2]

def clauseParts (clause : Clause Expr) : List Expr :=
  targetParts clause.target ++ clause.source :: clause.conditions

def defaultPart (outer inside : Site) : Expr → Located Expr
  | e@(.name ..) => ⟨outer.before, e⟩
  | e => ⟨inside, e⟩

def hintParts (inside : Site) (ps : List (Parameter Expr)) : List (Located Expr) :=
  inside.all (ps.filterMap (·.hint?))

def defaultParts (outer inside : Site) (ps : List (Parameter Expr)) : List (Located Expr) :=
  (ps.filterMap (·.default?)).map (defaultPart outer inside)

def parameterParts (outer inside : Site) (ps : Parameters Expr) : List (Located Expr) :=
  hintParts inside ps.positionalOnly ++ defaultParts outer inside ps.positionalOnly ++
    defaultParts outer inside ps.positional ++ defaultParts outer inside ps.keywordOnly ++
    hintParts inside ps.positional ++ hintParts inside ps.rest?.toList ++
    hintParts inside ps.keywords?.toList ++ hintParts inside ps.keywordOnly

/-- A called attribute is no part of the call on its own. -/
def calledParts : Expr → List Expr
  | .attribute .. => []
  | e => [e]

/-- The parts of an expression that stand on their own, each where it stands. -/
def parts (s : Site) : Expr → List (Located Expr)
  | .name .. | .constant .. | .attribute .. => []
  | .joined _ items | .list _ items | .tuple _ items | .set _ items | .boolean _ _ items => s.all items
  | .formatted _ value _ spec? => s.all (value :: spec?.toList)
  | .dict _ entries => s.all (entries.flatMap entryParts)
  | .starred _ value | .unary _ _ value | .await _ value | .yieldFrom _ value | .bind _ _ value =>
    s.all [value]
  | .call _ function arguments keywords =>
    s.all (calledParts function ++ arguments ++ keywords.map (·.value))
  | .subscript _ left right | .binary _ _ left right => s.all [left, right]
  | .slice _ lower? upper? step? => s.all (lower?.toList ++ upper?.toList ++ step?.toList)
  | .compare _ left rest => s.all (left :: rest.map (·.2))
  | .conditional _ test yes no => s.all [test, yes, no]
  | .lambda p parameters body =>
    let inside := s.enter (.lambda ⟨p, parameters, body⟩)
    parameterParts s inside parameters ++ [⟨inside, body⟩]
  | .comprehension _ _ element clauses =>
    (s.enter (.comprehension clauses)).all (element :: clauses.flatMap clauseParts)
  | .dictComprehension _ key value clauses =>
    (s.enter (.comprehension clauses)).all (key :: value :: clauses.flatMap clauseParts)
  | .yield _ value? => s.all value?.toList

/-- An expression with nothing written outward on it, and all in it. -/
def Located.nodes (x : Located Expr) : List Node := Scope.nodes x.site {} x.value

@[simp] theorem Site.flatMap_nodes_all (s : Site) (es : List Expr) :
    (s.all es).flatMap Located.nodes = es.flatMap (Scope.nodes s {}) := by
  rw [Site.all, List.flatMap_map]
  rfl

@[simp] theorem nodesOfAll_eq (s : Site) (es : List Expr) :
    nodesOfAll s es = es.flatMap (nodes s {}) := by
  induction es with
  | nil => rfl
  | cons e es ih => rw [nodesOfAll, ih, List.flatMap_cons]

@[simp] theorem nodesOfOption_eq (s : Site) (e? : Option Expr) :
    nodesOfOption s e? = e?.toList.flatMap (nodes s {}) := by
  cases e? <;> simp [nodesOfOption]

@[simp] theorem nodesOfEntries_eq (s : Site) (entries : List (Option Expr × Expr)) :
    nodesOfEntries s entries = (entries.flatMap entryParts).flatMap (nodes s {}) := by
  induction entries with
  | nil => rfl
  | cons e entries ih =>
    obtain ⟨key?, value⟩ := e
    simp [nodesOfEntries, ih, entryParts]

@[simp] theorem nodesOfKeywords_eq (s : Site) (keywords : List (Keyword Expr)) :
    nodesOfKeywords s keywords = (keywords.map (·.value)).flatMap (nodes s {}) := by
  induction keywords with
  | nil => rfl
  | cons k keywords ih => simp [nodesOfKeywords, ih]

@[simp] theorem nodesOfComparisons_eq (s : Site) (rest : List (Comparison × Expr)) :
    nodesOfComparisons s rest = (rest.map (·.2)).flatMap (nodes s {}) := by
  induction rest with
  | nil => rfl
  | cons c rest ih => simp [nodesOfComparisons, ih]

mutual

@[simp] theorem nodesOfTarget_eq (s : Site) : (e : Expr) →
    nodesOfTarget s e = (targetParts e).flatMap (nodes s {})
  | .attribute _ value _ => by simp [nodesOfTarget, targetParts]
  | .subscript _ value index => by simp [nodesOfTarget, targetParts]
  | .tuple _ items => nodesOfTargets_eq s items
  | .list _ items => nodesOfTargets_eq s items
  | .starred _ value => nodesOfTarget_eq s value
  | .name .. | .constant .. | .joined .. | .formatted .. | .set .. | .dict .. | .call .. | .slice ..
  | .unary .. | .binary .. | .boolean .. | .compare .. | .conditional .. | .lambda ..
  | .comprehension .. | .dictComprehension .. | .await .. | .yield .. | .yieldFrom .. | .bind .. => rfl

theorem nodesOfTargets_eq (s : Site) : (es : List Expr) →
    nodesOfTargets s es = (targetPartsOfAll es).flatMap (nodes s {})
  | [] => rfl
  | e :: rest => by
    rw [nodesOfTargets, nodesOfTarget_eq s e, nodesOfTargets_eq s rest, targetPartsOfAll,
      List.flatMap_append]

end

@[simp] theorem nodesOfClauses_eq (s : Site) (clauses : List (Clause Expr)) :
    nodesOfClauses s clauses = (clauses.flatMap clauseParts).flatMap (nodes s {}) := by
  induction clauses with
  | nil => rfl
  | cons c clauses ih =>
    simp [nodesOfClauses, ih, clauseParts]

theorem nodesOfHints_eq (inside : Site) (ps : List (Parameter Expr)) :
    nodesOfHints inside ps = (hintParts inside ps).flatMap Located.nodes := by
  rw [hintParts, Site.flatMap_nodes_all]
  induction ps with
  | nil => rfl
  | cons p ps ih =>
    rw [nodesOfHints, ih, nodesOfOption_eq, List.filterMap_cons]
    cases p.hint? <;> simp

theorem nodesOfHint_eq (inside : Site) (p? : Option (Parameter Expr)) :
    nodesOfHint inside p? = (hintParts inside p?.toList).flatMap Located.nodes := by
  rw [← nodesOfHints_eq]
  cases p? <;> simp [nodesOfHint, nodesOfHints]

@[simp] theorem nodesOfDefaults_eq (outer inside : Site) (ps : List (Parameter Expr)) :
    nodesOfDefaults outer inside ps = (defaultParts outer inside ps).flatMap Located.nodes := by
  induction ps with
  | nil => rfl
  | cons p ps ih =>
    rw [nodesOfDefaults, ih]
    simp only [defaultParts, List.filterMap_cons]
    cases p.default? with
    | none => rfl
    | some e => cases e <;> rfl

@[simp] theorem nodesOfParameters_eq (outer inside : Site) (ps : Parameters Expr) :
    nodesOfParameters outer inside ps = (parameterParts outer inside ps).flatMap Located.nodes := by
  cases ps
  simp only [nodesOfParameters, parameterParts, nodesOfHints_eq, nodesOfHint_eq, nodesOfDefaults_eq,
    List.flatMap_append]

/-! Accesses. -/

def accessed : Expr → List Access → Expr
  | e, [] => e
  | e, ⟨name, p, none⟩ :: rest => accessed (.attribute p e name) rest
  | e, ⟨name, p, some call⟩ :: rest =>
    accessed (.call call.position (.attribute p e name) call.arguments call.keywords) rest

/-- An expression stands on its own in another one: it is the whole of it, or a part of an expression
that stands there with any accesses written outward on it. -/
inductive Stands (whole : Located Expr) : Located Expr → Prop
  | whole : Stands whole whole
  | part {s e x} (accesses : List Access) (h : Stands whole ⟨s, accessed e accesses⟩)
      (hx : x ∈ parts s e) : Stands whole x

def isCall : Expr → Bool
  | .call .. => true
  | _ => false

def isAttribute : Expr → Bool
  | .attribute .. => true
  | _ => false

/-- What is not on its own in an expression: the owner of an attribute, and an attribute that is
called. -/
def inward (s : Site) (u : Use) : Expr → List Node
  | .attribute p value name => nodes s (u.owner name p) value
  | .call p function arguments keywords =>
    if isAttribute function then nodes s (u.called ⟨p, arguments, keywords⟩) function else []
  | _ => []

theorem nodes_called {function : Expr} (h : isAttribute function = false) (s : Site) (u : Use)
    (call : Application) : nodes s (u.called call) function = nodes s {} function := by
  cases function <;> first | rfl | cases h

/-- The expression itself. No attribute is taken of a starred value or a slice. -/
def Node.head (s : Site) (u : Use) (e : Expr) : Node :=
  ⟨s, e, match e with
    | .formatted .. | .starred .. | .slice .. => []
    | _ => u.outward⟩

theorem nodes_eq (s : Site) (u : Use) (e : Expr) :
    nodes s u e = .head s u e :: (inward s u e ++ (parts s e).flatMap Located.nodes) := by
  cases e with
  | call p function arguments keywords =>
    cases hf : isAttribute function with
    | true =>
      have hparts : calledParts function = [] := by cases function <;> first | rfl | cases hf
      simp [nodes, inward, parts, hf, hparts, Node.head]
    | false =>
      have hparts : calledParts function = [function] := by cases function <;> first | rfl | cases hf
      simp [nodes, inward, parts, hf, hparts, nodes_called, Node.head]
  | lambda p parameters body =>
    simp [nodes, inward, parts, Located.nodes, Node.head]
  | _ =>
    simp [nodes, inward, parts, Node.head]

theorem nodes_subset_of_mem_parts {s : Site} {e : Expr} {x : Located Expr} (h : x ∈ parts s e)
    (u : Use) : x.nodes ⊆ nodes s u e := by
  intro n hn
  rw [nodes_eq]
  exact .tail _ (List.mem_append_right _ (List.mem_flatMap.mpr ⟨x, h, hn⟩))

theorem nodes_subset_accessed (s : Site) (e : Expr) (accesses : List Access) :
    nodes s ⟨none, accesses⟩ e ⊆ nodes s {} (accessed e accesses) := by
  induction accesses generalizing e with
  | nil => exact fun _ hn => hn
  | cons a rest ih =>
    obtain ⟨name, p, call?⟩ := a
    intro n hn
    cases call? with
    | none => exact ih (.attribute p e name) (.tail _ hn)
    | some call =>
      refine ih _ (.tail _ ?_)
      exact List.mem_append_left _ (List.mem_append_left _ (.tail _ hn))

theorem Stands.nodes_subset {whole x : Located Expr} (h : Stands whole x) : x.nodes ⊆ whole.nodes := by
  induction h with
  | whole => exact fun _ hn => hn
  | part _ _ hx ih =>
    intro n hn
    exact ih (nodes_subset_accessed _ _ _ (nodes_subset_of_mem_parts hx _ hn))

namespace Use

def applied (u : Use) (e : Expr) : Expr :=
  match u.call? with
  | none => accessed e u.after
  | some call => accessed (.call call.position e call.arguments call.keywords) u.after

@[simp] theorem applied_owner (u : Use) (e : Expr) (name : String) (p : Position) :
    (u.owner name p).applied e = u.applied (.attribute p e name) := by
  obtain ⟨call?, after⟩ := u
  cases call? <;> rfl

end Use

theorem Stands.outward {whole : Located Expr} {s : Site} {u : Use} {e : Expr}
    (h : Stands whole ⟨s, u.applied e⟩) (he : isAttribute e = false) :
    Stands whole ⟨s, accessed e u.outward⟩ := by
  obtain ⟨call?, after⟩ := u
  cases call? with
  | none => exact h
  | some call =>
    refine .part after h ?_
    have hparts : calledParts e = [e] := by cases e <;> first | rfl | cases he
    simp [parts, hparts, Site.all, Use.outward, accessed]

theorem Stands.exists_inward {whole : Located Expr} {s : Site} {u : Use} {e : Expr} {n : Node}
    (h : Stands whole ⟨s, u.applied e⟩) (hn : n ∈ inward s u e) :
    ∃ u' e', inward s u e = nodes s u' e' ∧ Stands whole ⟨s, u'.applied e'⟩ := by
  unfold inward at hn ⊢
  split at hn
  · exact ⟨_, _, rfl, (u.applied_owner _ _ _).symm ▸ h⟩
  · split at hn
    · rename_i hf
      exact ⟨_, _, if_pos hf, h.outward rfl⟩
    · cases hn
  · cases hn

theorem Stands.of_mem_nodes {whole : Located Expr} {n : Node} (hcall : isCall n.expr = true) {s : Site}
    {u : Use} {e : Expr} (h : Stands whole ⟨s, u.applied e⟩) (hn : n ∈ nodes s u e) :
    Stands whole ⟨n.site, accessed n.expr n.outward⟩ := by
  -- the induction is on the number of nodes, since what is called is met with a use of its own
  induction hk : (nodes s u e).length using Nat.strongRecOn generalizing s u e with
  | ind k ih =>
    rw [nodes_eq] at hn hk
    rw [List.length_cons, List.length_append] at hk
    rcases List.mem_cons.mp hn with rfl | hn
    · cases e <;> first | exact h.outward rfl | cases hcall
    rcases List.mem_append.mp hn with hn | hn
    · obtain ⟨u', e', heq, h'⟩ := h.exists_inward hn
      rw [heq] at hn hk
      exact ih _ (by omega) h' hn rfl
    · obtain ⟨x, hx, hn⟩ := List.mem_flatMap.mp hn
      have he : isAttribute e = false := by cases e <;> first | rfl | cases hx
      have hlength : x.nodes.length ≤ ((parts s e).flatMap Located.nodes).length :=
        (List.sublist_flatten_of_mem (List.mem_map_of_mem hx)).length_le
      exact ih x.nodes.length (by omega) ((h.outward he).part _ hx) hn rfl

theorem mem_nodes_iff {whole : Located Expr} {n : Node} (hcall : isCall n.expr = true) :
    n ∈ whole.nodes ↔ Stands whole ⟨n.site, accessed n.expr n.outward⟩ := by
  constructor
  · exact fun hn => Stands.whole.of_mem_nodes (u := {}) hcall hn
  · intro h
    refine h.nodes_subset (nodes_subset_accessed _ _ _ ?_)
    obtain ⟨s, e, accesses⟩ := n
    rw [nodes_eq]
    cases e <;> first | exact .head _ | cases hcall

/-! Statements. -/

def resourceParts (r : Resource) : List Expr := r.value :: (r.target?.map targetParts).getD []

/-- The decorators, bases and keywords of a class; the metaclass is no part of it. -/
def classHeaderParts (s inside : Site) (c : ClassDecl) : List (Located Expr) :=
  s.decorator.all (c.decorators.map (·.value)) ++ s.before.all c.bases ++
    inside.all ((c.keywords.filter (·.name? != some "metaclass")).map (·.value))

mutual

def expressions (s : Site) : Stmt → List (Located Expr)
  | .expr _ value => s.all [value]
  | .assign _ targets value => s.all (targetPartsOfAll targets ++ [value])
  | .augmented _ target _ value => s.all (targetParts target ++ [value])
  | .annotated _ target hint value? => s.all (targetParts target ++ hint :: value?.toList)
  | .return _ value? => s.all value?.toList
  | .delete _ targets => s.all (targetPartsOfAll targets)
  | .raise _ exception? cause? => s.all (exception?.toList ++ cause?.toList)
  | .assert _ test message? => s.all (test :: message?.toList)
  | .global .. | .nonlocal .. | .pass _ | .break _ | .continue _ | .import .. | .importFrom .. => []
  | .if _ test body orelse =>
    (s.part .test).all [test] ++ expressionsOfBlock s .yes body ++ expressionsOfBlock s .no orelse
  | .while _ test body orelse =>
    s.all [test] ++ expressionsOfBlock s .body body ++ expressionsOfBlock s .body orelse
  | .for _ _ target source body orelse =>
    s.all (targetParts target ++ [source]) ++ expressionsOfBlock s .body body ++
      expressionsOfBlock s .body orelse
  | .try _ body handlers orelse final =>
    expressionsOfBlock s .tried body ++ expressionsOfHandlers s 0 handlers ++
      expressionsOfBlock s .unfailed orelse ++ expressionsOfBlock s .final final
  | .with _ _ resources body =>
    s.all (resources.flatMap resourceParts) ++ expressionsOfBlock s .body body
  | .match _ subject cases => s.all [subject] ++ expressionsOfCases s 0 cases
  | .function p isAsync name parameters returns? decorators body =>
    let inside := Opening.function ⟨p, isAsync, name, parameters, returns?, decorators, body⟩
    s.decorator.all (decorators.map (·.value)) ++ parameterParts s (s.header inside) parameters ++
      (s.header inside).all returns?.toList ++ expressionsOfBlock (s.enter inside) .body body
  | .class p name bases keywords decorators body =>
    let c : ClassDecl := ⟨p, name, bases, keywords, decorators, body⟩
    classHeaderParts s (s.header (.class c)) c ++ expressionsOfBlock (s.enter (.class c)) .body body

def expressionsOfBlock (s : Site) (b : Branch) : List Stmt → List (Located Expr)
  | [] => []
  | st :: rest => expressions (s.inner b st.position (lineOf st)) st ++ expressionsOfBlock s b rest

def expressionsOfHandlers (s : Site) (i : Nat) : List (Handler Stmt) → List (Located Expr)
  | [] => []
  | ⟨p, type?, _, body⟩ :: rest =>
    let here := s.inner (.handler i) p p.line
    here.all type?.toList ++ expressionsOfBlock here .body body ++ expressionsOfHandlers s (i + 1) rest

def expressionsOfCases (s : Site) (i : Nat) : List (Case Stmt) → List (Located Expr)
  | [] => []
  | ⟨_, guard?, body⟩ :: rest =>
    (s.part (.case i)).all guard?.toList ++ expressionsOfBlock s (.case i) body ++
      expressionsOfCases s (i + 1) rest

end

@[simp] theorem nodesOfResources_eq (s : Site) (resources : List Resource) :
    nodesOfResources s resources = (resources.flatMap resourceParts).flatMap (nodes s {}) := by
  induction resources with
  | nil => rfl
  | cons r resources ih =>
    obtain ⟨value, target?⟩ := r
    cases target? <;> simp [nodesOfResources, ih, resourceParts]

mutual

theorem nodesOfStmt_eq (s : Site) : (st : Stmt) →
    nodesOfStmt s st = (expressions s st).flatMap Located.nodes
  | .expr .. | .assign .. | .augmented .. | .annotated .. | .return .. | .delete .. | .raise ..
  | .assert .. => by
    simp [nodesOfStmt, expressions, nodesOfTargets_eq]
  | .global .. | .nonlocal .. | .pass _ | .break _ | .continue _ | .import .. | .importFrom .. => rfl
  | .if _ _ body orelse => by
    simp [nodesOfStmt, expressions, nodesOfBlock_eq s .yes body, nodesOfBlock_eq s .no orelse]
  | .while _ _ body orelse => by
    simp [nodesOfStmt, expressions, nodesOfBlock_eq s .body body, nodesOfBlock_eq s .body orelse]
  | .for _ _ _ _ body orelse => by
    simp [nodesOfStmt, expressions, nodesOfBlock_eq s .body body, nodesOfBlock_eq s .body orelse]
  | .try _ body handlers orelse final => by
    simp [nodesOfStmt, expressions, nodesOfBlock_eq s .tried body, nodesOfHandlers_eq s 0 handlers,
      nodesOfBlock_eq s .unfailed orelse, nodesOfBlock_eq s .final final]
  | .with _ _ resources body => by
    simp [nodesOfStmt, expressions, nodesOfBlock_eq s .body body]
  | .match _ _ cases => by
    simp [nodesOfStmt, expressions, nodesOfCases_eq s 0 cases]
  | .function p isAsync name parameters returns? decorators body => by
    simp [nodesOfStmt, expressions, nodesOfDecorators, nodesOfBlock_eq _ .body body]
  | .class p name bases keywords decorators body => by
    simp [nodesOfStmt, expressions, classHeaderParts, nodesOfDecorators, nodesOfClassKeywords,
      nodesOfBlock_eq _ .body body]

theorem nodesOfBlock_eq (s : Site) (b : Branch) : (body : List Stmt) →
    nodesOfBlock s b body = (expressionsOfBlock s b body).flatMap Located.nodes
  | [] => rfl
  | st :: rest => by
    simp [nodesOfBlock, expressionsOfBlock, nodesOfStmt_eq _ st, nodesOfBlock_eq s b rest]

theorem nodesOfHandlers_eq (s : Site) (i : Nat) : (handlers : List (Handler Stmt)) →
    nodesOfHandlers s i handlers = (expressionsOfHandlers s i handlers).flatMap Located.nodes
  | [] => rfl
  | ⟨p, type?, _, body⟩ :: rest => by
    simp [nodesOfHandlers, expressionsOfHandlers, nodesOfBlock_eq _ .body body,
      nodesOfHandlers_eq s (i + 1) rest]

theorem nodesOfCases_eq (s : Site) (i : Nat) : (cases : List (Case Stmt)) →
    nodesOfCases s i cases = (expressionsOfCases s i cases).flatMap Located.nodes
  | [] => rfl
  | ⟨_, guard?, body⟩ :: rest => by
    simp [nodesOfCases, expressionsOfCases, nodesOfBlock_eq s (.case i) body,
      nodesOfCases_eq s (i + 1) rest]

end

def Module.Holds (m : Module) (x : Located Expr) : Prop :=
  ∃ whole ∈ expressionsOfBlock (.ofModule m) .whole m.body, Stands whole x

theorem Module.mem_nodes_iff {m : Module} {n : Node} (hcall : isCall n.expr = true) :
    n ∈ m.nodes ↔ m.Holds ⟨n.site, accessed n.expr n.outward⟩ := by
  rw [Module.nodes, nodesOfBlock_eq, List.mem_flatMap]
  simp only [Scope.mem_nodes_iff hcall, Holds]

end ScenarioCheck.Scope
