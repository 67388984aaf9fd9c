import Mathlib.Logic.Basic
import ScenarioCheck.Proofs.Text.Quoted
import ScenarioCheck.Source.Printer

/-! Which printed expressions hold a closing brace: those with a display of a set or a dictionary,
with a field of a template, or with a literal that holds one, anywhere in them. None is printed as
nothing. -/
namespace ScenarioCheck

namespace Number.Double

theorem closing_notMem_shortestFrom (x : Double) (num den : Nat) (point : Int) (fuel count : Nat) :
    '}' ∉ (shortestFrom x num den point fuel count).digits := by
  induction fuel generalizing count with
  | zero => simp [shortestFrom]
  | succ fuel ih =>
    unfold shortestFrom
    split
    · rename_i n hn
      intro h
      have hdigits := (List.dropWhile_sublist _).mem (List.mem_reverse.mp h)
      exact Text.closing_notMem_toDigits (by decide) n (List.mem_reverse.mp hdigits)
    · exact ih (count + 1)

theorem closing_notMem_shortest (mantissa : Nat) (exponent : Int) :
    '}' ∉ (shortest mantissa exponent).digits := by
  unfold shortest
  split
  · simp
  · exact closing_notMem_shortestFrom _ _ _ _ _ _

theorem Decimal.closing_notMem_write {style : Style} (hs : '}' ∉ style.wholeEnd.toList)
    {d : Decimal} (hd : '}' ∉ d.digits) : '}' ∉ (d.write style).toList := by
  have htake (n : Nat) : '}' ∉ d.digits.take n := fun h => hd (List.mem_of_mem_take h)
  have hdrop (n : Nat) : '}' ∉ d.digits.drop n := fun h => hd (List.mem_of_mem_drop h)
  unfold write
  dsimp only
  split
  · split
    · simp [hd]
    · split <;> simp [hd, hs, htake, hdrop]
  · rw [String.toList_append, String.toList_append, List.mem_append, List.mem_append]
    refine not_or.mpr ⟨not_or.mpr ⟨?_, ?_⟩, ?_⟩
    · split <;> simp_all
    · split <;> simp
    · split <;> simp [Text.closing_notMem_toDigits]

theorem closing_notMem_write {style : Style} (hs : '}' ∉ style.wholeEnd.toList) (x : Double) :
    '}' ∉ (x.write style).toList := by
  cases x with
  | nan negative => simp [write]
  | infinite negative => cases negative <;> simp [write]
  | finite negative mantissa exponent =>
    have h := Decimal.closing_notMem_write hs (closing_notMem_shortest mantissa exponent)
    cases negative <;> simp [write, h]

theorem Decimal.toList_write_ne_nil {style : Style} (hs : style.wholeEnd.toList ≠ []) (d : Decimal) :
    (d.write style).toList ≠ [] := by
  unfold write
  dsimp only
  split
  · split
    · simp
    · split <;> simp_all
  · split <;> simp

theorem toList_write_ne_nil {style : Style} (hs : style.wholeEnd.toList ≠ []) (x : Double) :
    (x.write style).toList ≠ [] := by
  cases x with
  | nan negative => simp [write]
  | infinite negative => cases negative <;> simp [write]
  | finite negative mantissa exponent =>
    have h := (shortest mantissa exponent).toList_write_ne_nil hs
    cases negative <;> simp_all [write]

end Number.Double

namespace Source

open Text (closing_mem_quoted_iff closing_notMem_toDigits mem_intercalate_iff)

def Constant.closesBrace : Constant → Bool
  | .text s => s.toList.contains '}'
  | .bytes content => (content.map Char.ofNat).contains '}'
  | _ => false

@[simp] theorem closing_mem_bytesText_iff {content : List Nat} :
    '}' ∈ (bytesText content).toList ↔ '}' ∈ content.map Char.ofNat := by
  have hescape (quote c : Char) :
      '}' ∈ (if 0x7F ≤ c.toNat then '\\' :: 'x' :: Text.hexDigits 2 c.toNat
        else Text.escape quote c) ↔ c = '}' := by
    split
    · rename_i hc
      constructor
      · intro h
        simp [Text.closing_notMem_hexDigits] at h
      · rintro rfl
        exact absurd hc (by decide)
    · exact Text.closing_mem_escape_iff
  unfold bytesText
  dsimp only
  rw [String.toList_ofList, List.cons_append, List.cons_append, List.mem_cons, List.mem_cons,
    List.mem_append, List.mem_singleton, List.mem_flatMap]
  simp only [hescape, Text.closing_ne_quoteFor]
  simp

@[simp] theorem Constant.closing_mem_shown_iff {c : Constant} :
    '}' ∈ c.shown.toList ↔ c.closesBrace = true := by
  cases c with
  | none => simp [shown, closesBrace]
  | ellipsis => simp [shown, closesBrace]
  | bool b => cases b <;> simp [shown, closesBrace]
  | int n =>
    cases n with
    | ofNat n => simp [shown, closesBrace, Int.repr, closing_notMem_toDigits]
    | negSucc n => simp [shown, closesBrace, Int.repr, closing_notMem_toDigits]
  | float x =>
    have h : '}' ∉ (x.write Number.Double.valueStyle).toList := x.closing_notMem_write (by decide)
    simp [shown, Number.Double.shown, closesBrace, h]
  | imaginary x =>
    have h : '}' ∉ (x.write Number.Double.imaginaryStyle).toList := x.closing_notMem_write (by decide)
    simp [shown, closesBrace, h]
  | text s => simp [shown, closesBrace]
  | bytes content => simp [shown, closesBrace]

mutual

/-- An expression is written with a closing brace: it is a display of a set or a dictionary, a field of
a template, a literal that holds one, or some part of it is written with one. -/
def Expr.closesBrace : Expr → Bool
  | .name _ id => id.toList.contains '}'
  | .constant _ c => c.closesBrace
  | .formatted .. | .set .. | .dict .. | .dictComprehension .. => true
  | .joined _ items | .list _ items | .tuple _ items | .boolean _ _ items => Expr.anyCloses items
  | .starred _ value | .unary _ _ value | .await _ value | .yieldFrom _ value => value.closesBrace
  | .attribute _ value id => value.closesBrace || id.toList.contains '}'
  | .call _ function args keywords =>
    function.closesBrace || Expr.anyCloses args || Expr.keywordsClose keywords
  | .subscript _ left right | .binary _ _ left right | .bind _ left right =>
    left.closesBrace || right.closesBrace
  | .slice _ lower? upper? step? =>
    Expr.optionCloses lower? || Expr.optionCloses upper? || Expr.optionCloses step?
  | .compare _ left rest => left.closesBrace || Expr.comparisonsClose rest
  | .conditional _ test yes no => yes.closesBrace || test.closesBrace || no.closesBrace
  | .lambda _ ps body => Expr.parametersClose ps || body.closesBrace
  | .comprehension _ kind element clauses =>
    kind == .set || element.closesBrace || Expr.clausesClose clauses
  | .yield _ value? => Expr.optionCloses value?

def Expr.anyCloses : List Expr → Bool
  | [] => false
  | e :: rest => e.closesBrace || Expr.anyCloses rest

def Expr.optionCloses : Option Expr → Bool
  | none => false
  | some e => e.closesBrace

def Expr.comparisonsClose : List (Comparison × Expr) → Bool
  | [] => false
  | (_, e) :: rest => e.closesBrace || Expr.comparisonsClose rest

def Expr.keywordsClose : List (Keyword Expr) → Bool
  | [] => false
  | ⟨_, name?, value⟩ :: rest =>
    name?.any (·.toList.contains '}') || value.closesBrace || Expr.keywordsClose rest

def Expr.clausesClose : List (Clause Expr) → Bool
  | [] => false
  | ⟨_, target, source, conditions⟩ :: rest =>
    target.closesBrace || source.closesBrace || Expr.anyCloses conditions || Expr.clausesClose rest

/-- The types of collecting parameters are not written. -/
def Expr.parametersClose : Parameters Expr → Bool
  | ⟨positionalOnly, positional, rest?, keywordOnly, keywords?⟩ =>
    Expr.parameterListCloses positionalOnly || Expr.parameterListCloses positional ||
      rest?.any (·.name.toList.contains '}') || Expr.parameterListCloses keywordOnly ||
      keywords?.any (·.name.toList.contains '}')

def Expr.parameterListCloses : List (Parameter Expr) → Bool
  | [] => false
  | ⟨_, id, hint?, default?⟩ :: rest =>
    id.toList.contains '}' || Expr.optionCloses hint? || Expr.optionCloses default? ||
      Expr.parameterListCloses rest

end

@[simp] theorem closing_mem_wrap_iff {needed : Bool} {text : String} :
    '}' ∈ (Expr.wrap needed text).toList ↔ '}' ∈ text.toList := by
  cases needed <;> simp [Expr.wrap]

theorem closing_notMem_templateQuotes (content : String) :
    '}' ∉ (templateQuotes content).toList := by
  unfold templateQuotes
  dsimp only
  cases h : ["'", "\"", "'''", "\"\"\""].find? fun q => !occursIn q.toList content.toList with
  | none => decide
  | some q =>
    have hall : ∀ q ∈ ["'", "\"", "'''", "\"\"\""], '}' ∉ q.toList := by decide
    exact hall q (List.mem_of_find?_eq_some h)

@[simp] theorem closing_mem_quoteTemplate_iff {content : String} :
    '}' ∈ (quoteTemplate content).toList ↔ '}' ∈ content.toList := by
  simp [quoteTemplate, closing_notMem_templateQuotes]

@[simp] theorem closing_mem_templateText_iff {s : String} :
    '}' ∈ templateText s ↔ '}' ∈ s.toList := by
  have hdouble (c : Char) : '}' ∈ (if c = '{' ∨ c = '}' then [c, c] else [c]) ↔ c = '}' := by
    split <;> simp [eq_comm]
  unfold templateText
  dsimp only
  rw [List.mem_flatMap, ← Text.closing_mem_flatMap_escape_iff (Text.quoteFor s.toList)]
  simp only [hdouble]
  simp

@[simp] theorem closing_mem_partText_iff {part : Expr} :
    '}' ∈ (partText part part.shown).toList ↔ '}' ∈ part.shown.toList := by
  unfold partText
  split
  · simp [Expr.shown, Constant.shown]
  · rfl

@[simp] theorem closing_mem_indexText_iff {index : Expr} :
    '}' ∈ (indexText index index.shown).toList ↔ '}' ∈ index.shown.toList := by
  unfold indexText
  split
  · rename_i p item rest
    have hshown : ∃ content, (Expr.tuple p (item :: rest)).shown.toList =
        '(' :: (content ++ [')']) := by
      cases rest with
      | nil => exact ⟨item.shown.toList ++ [','], by simp [Expr.shown]⟩
      | cons item' rest =>
        exact ⟨(", ".intercalate (Expr.shownAll (item :: item' :: rest))).toList,
          by simp [Expr.shown]⟩
    obtain ⟨content, hcontent⟩ := hshown
    rw [String.toList_ofList, hcontent]
    simp
  · rfl

attribute [simp] Expr.shown Expr.shownAll Expr.closesBrace Expr.anyCloses Expr.optionCloses

theorem shownParameter_mk (p : Position) (id : String) (hint? default? : Option Expr) :
    Expr.shownParameter ⟨p, id, hint?, default?⟩ =
      let lead := match hint? with
        | some a => id ++ ": " ++ a.shown
        | none => id
      match default? with
      | some d => lead ++ (if hint?.isSome then " = " else "=") ++ d.shown
      | none => lead := by
  cases hint? <;> cases default? <;> rfl

mutual

theorem Expr.closing_mem_shown_iff : (e : Expr) → ('}' ∈ e.shown.toList ↔ e.closesBrace = true)
  | .name _ id => by simp
  | .constant _ c => by simp
  | .joined _ items => by
    simp [Expr.closing_mem_shownParts_iff items]
  | .formatted _ value conversion? spec? => by
    cases spec? <;> simp
  | .list _ items => by
    simp [mem_intercalate_iff, Expr.closing_mem_shownAll_iff items]
  | .tuple _ items => by
    cases items with
    | nil => simp
    | cons item rest =>
      have hitem := Expr.closing_mem_shown_iff item
      cases rest with
      | nil => simp [hitem]
      | cons item' rest =>
        have hrest := Expr.closing_mem_shownAll_iff (item' :: rest)
        simp only [Expr.shownAll, Expr.anyCloses] at hrest
        simp_all [mem_intercalate_iff]
  | .set _ items => by simp
  | .dict _ entries => by simp
  | .starred _ value => by
    simp [Expr.closing_mem_shown_iff value]
  | .attribute _ value id => by
    have hvalue := Expr.closing_mem_shown_iff value
    simp only [Expr.shown, Expr.closesBrace]
    split <;> simp [hvalue]
  | .call _ function args keywords => by
    simp [mem_intercalate_iff, Expr.closing_mem_shown_iff function,
      Expr.closing_mem_shownAll_iff args, Expr.closing_mem_shownKeywords_iff keywords, or_and_right,
      exists_or, or_assoc]
  | .subscript _ value index => by
    simp [Expr.closing_mem_shown_iff value, Expr.closing_mem_shown_iff index]
  | .slice _ lower? upper? step? => by
    have hlower := Expr.closing_mem_shownOption_iff lower?
    have hupper := Expr.closing_mem_shownOption_iff upper?
    have hstep := Expr.closing_mem_shownOption_iff step?
    cases step? with
    | none => simp [hlower, hupper]
    | some step =>
      rw [Expr.shownOption] at hstep
      simp [hlower, hupper, hstep, or_assoc]
  | .unary _ o operand => by
    have hsign : '}' ∉ o.sign.toList := by cases o <;> decide
    simp [hsign, Expr.closing_mem_shown_iff operand]
  | .binary _ o left right => by
    have hsign : '}' ∉ o.spaced.toList := by cases o <;> decide
    simp [hsign, Expr.closing_mem_shown_iff left, Expr.closing_mem_shown_iff right]
  | .boolean _ o operands => by
    have hsign : '}' ∉ o.sign.toList := by cases o <;> decide
    simp [hsign, mem_intercalate_iff, Expr.closing_mem_shownOperands_iff _ operands]
  | .compare _ left rest => by
    simp [mem_intercalate_iff, Expr.closing_mem_shown_iff left,
      Expr.closing_mem_shownComparisons_iff _ rest]
  | .conditional _ test yes no => by
    simp [Expr.closing_mem_shown_iff test, Expr.closing_mem_shown_iff yes,
      Expr.closing_mem_shown_iff no, or_assoc]
  | .lambda _ ps body => by
    have hps := Expr.closing_mem_shownParameters_iff ps
    have hbody := Expr.closing_mem_shown_iff body
    have hall : '}' ∈ (", ".intercalate (Expr.shownParameters ps)).toList ↔
        Expr.parametersClose ps = true := by
      simp [mem_intercalate_iff, hps]
    simp only [Expr.shown, Expr.closesBrace]
    split
    · rename_i hempty
      rw [String.isEmpty_iff.mp hempty] at hall
      simp_all
    · simp [mem_intercalate_iff, hps, hbody]
  | .comprehension _ kind element clauses => by
    have helement := Expr.closing_mem_shown_iff element
    have hclauses := Expr.closing_mem_shownClauses_iff clauses
    cases kind <;> simp [mem_intercalate_iff, helement, hclauses]
  | .dictComprehension _ key value clauses => by simp
  | .await _ value => by simp [Expr.closing_mem_shown_iff value]
  | .yield _ value? => by
    have hvalue := Expr.closing_mem_shownOption_iff value?
    cases value? with
    | none => simp
    | some value =>
      rw [Expr.shownOption] at hvalue
      simp [hvalue]
  | .yieldFrom _ value => by
    simp [Expr.closing_mem_shown_iff value]
  | .bind _ target value => by
    simp [Expr.closing_mem_shown_iff target, Expr.closing_mem_shown_iff value]

theorem Expr.closing_mem_shownParts_iff :
    (parts : List Expr) → ((∃ s ∈ Expr.shownParts parts, '}' ∈ s.toList) ↔
      Expr.anyCloses parts = true)
  | [] => by simp [Expr.shownParts]
  | part :: rest => by
    simp [Expr.shownParts, Expr.closing_mem_shown_iff part, Expr.closing_mem_shownParts_iff rest]

theorem Expr.closing_mem_shownAll_iff :
    (es : List Expr) → ((∃ s ∈ Expr.shownAll es, '}' ∈ s.toList) ↔ Expr.anyCloses es = true)
  | [] => by simp
  | e :: rest => by
    simp [Expr.closing_mem_shown_iff e, Expr.closing_mem_shownAll_iff rest]

theorem Expr.closing_mem_shownOption_iff :
    (e? : Option Expr) → ('}' ∈ (Expr.shownOption e?).toList ↔ Expr.optionCloses e? = true)
  | none => by simp [Expr.shownOption]
  | some e => by simp [Expr.shownOption, Expr.closing_mem_shown_iff e]

theorem Expr.closing_mem_shownOperands_iff (parent : Expr) :
    (es : List Expr) → ((∃ s ∈ Expr.shownOperands parent es, '}' ∈ s.toList) ↔
      Expr.anyCloses es = true)
  | [] => by simp [Expr.shownOperands]
  | e :: rest => by
    simp [Expr.shownOperands, Expr.closing_mem_shown_iff e,
      Expr.closing_mem_shownOperands_iff parent rest]

theorem Expr.closing_mem_shownComparisons_iff (parent : Expr) :
    (rest : List (Comparison × Expr)) →
      ((∃ s ∈ Expr.shownComparisons parent rest, '}' ∈ s.toList) ↔
        Expr.comparisonsClose rest = true)
  | [] => by simp [Expr.shownComparisons, Expr.comparisonsClose]
  | (c, e) :: rest => by
    have hsign : '}' ∉ c.sign.toList := by cases c <;> decide
    simp [Expr.shownComparisons, Expr.comparisonsClose, hsign, Expr.closing_mem_shown_iff e,
      Expr.closing_mem_shownComparisons_iff parent rest]

theorem Expr.closing_mem_shownKeywords_iff :
    (keywords : List (Keyword Expr)) →
      ((∃ s ∈ Expr.shownKeywords keywords, '}' ∈ s.toList) ↔ Expr.keywordsClose keywords = true)
  | [] => by simp [Expr.shownKeywords, Expr.keywordsClose]
  | ⟨_, name?, value⟩ :: rest => by
    cases name? <;>
      simp [Expr.shownKeywords, Expr.keywordsClose, Expr.closing_mem_shown_iff value,
        Expr.closing_mem_shownKeywords_iff rest]

theorem Expr.closing_mem_shownClauses_iff :
    (clauses : List (Clause Expr)) →
      ((∃ s ∈ Expr.shownClauses clauses, '}' ∈ s.toList) ↔ Expr.clausesClose clauses = true)
  | [] => by simp [Expr.shownClauses, Expr.clausesClose]
  | ⟨isAsync, target, source, conditions⟩ :: rest => by
    cases isAsync <;>
      simp [Expr.shownClauses, Expr.clausesClose, Expr.closing_mem_shown_iff target,
        Expr.closing_mem_shown_iff source, Expr.closing_mem_shownConditions_iff conditions,
        Expr.closing_mem_shownClauses_iff rest, or_assoc]

theorem Expr.closing_mem_shownConditions_iff :
    (es : List Expr) → ((∃ s ∈ Expr.shownConditions es, '}' ∈ s.toList) ↔ Expr.anyCloses es = true)
  | [] => by simp [Expr.shownConditions]
  | e :: rest => by
    simp [Expr.shownConditions, Expr.closing_mem_shown_iff e, Expr.closing_mem_shownConditions_iff rest]

theorem Expr.closing_mem_shownParameters_iff :
    (ps : Parameters Expr) → ((∃ s ∈ Expr.shownParameters ps, '}' ∈ s.toList) ↔
      Expr.parametersClose ps = true)
  | ⟨positionalOnly, positional, rest?, keywordOnly, keywords?⟩ => by
    have honly := Expr.closing_mem_shownParameterList_iff positionalOnly
    have hpositional := Expr.closing_mem_shownParameterList_iff positional
    have hkeywordOnly := Expr.closing_mem_shownParameterList_iff keywordOnly
    simp only [Expr.shownParameters, Expr.parametersClose, List.mem_append, or_and_right, exists_or,
      hpositional, hkeywordOnly, Bool.or_eq_true]
    refine or_congr (or_congr (or_congr (or_congr ?_ .rfl) ?_) .rfl) ?_
    · cases positionalOnly with
      | nil => simp [Expr.parameterListCloses]
      | cons p ps => simp [or_and_right, exists_or, honly]
    · cases rest? with
      | none => cases keywordOnly <;> simp
      | some p => simp
    · cases keywords? <;> simp

theorem Expr.closing_mem_shownParameterList_iff :
    (ps : List (Parameter Expr)) → ((∃ s ∈ Expr.shownParameterList ps, '}' ∈ s.toList) ↔
      Expr.parameterListCloses ps = true)
  | [] => by simp [Expr.shownParameterList, Expr.parameterListCloses]
  | ⟨_, id, hint?, default?⟩ :: rest => by
    have hhint := Expr.closing_mem_shownOption_iff hint?
    have hdefault := Expr.closing_mem_shownOption_iff default?
    have hrest := Expr.closing_mem_shownParameterList_iff rest
    cases hint? <;> cases default? <;>
      simp_all [Expr.shownParameterList, shownParameter_mk, Expr.parameterListCloses,
        Expr.shownOption, or_assoc]

end

/-! What is written is some text. -/

theorem Constant.toList_shown_ne_nil (c : Constant) : c.shown.toList ≠ [] := by
  cases c with
  | none => simp [shown]
  | ellipsis => simp [shown]
  | bool b => cases b <;> simp [shown]
  | int n => cases n <;> simp [shown, Int.repr, Nat.toDigits_ne_nil]
  | float x => exact x.toList_write_ne_nil (by decide)
  | imaginary x => simp [shown]
  | text s => simp [shown, Text.quoted]
  | bytes content => simp [shown, bytesText]

/-- What every expression of a module is: a name has letters, and operators have operands. -/
def Expr.isWritten : Expr → Bool
  | .name _ id => id ≠ ""
  | .boolean _ _ operands => 2 ≤ operands.length
  | _ => true

theorem Expr.toList_shown_ne_nil {e : Expr} (h : e.isWritten = true) : e.shown.toList ≠ [] := by
  cases e with
  | name p id => simpa [Expr.isWritten] using h
  | constant p c => simpa using c.toList_shown_ne_nil
  | boolean p o operands =>
    cases operands with
    | nil => cases h
    | cons e rest =>
      cases rest with
      | nil => cases h
      | cons e' rest => simp [Expr.shownOperands]
  | joined p parts => simp [quoteTemplate]
  | formatted p value conversion? spec? => cases spec? <;> simp
  | list p items => simp
  | tuple p items =>
    cases items with
    | nil => simp
    | cons item rest => cases rest <;> simp
  | lambda p ps body =>
    simp only [Expr.shown]
    split <;> simp
  | slice p lower? upper? step? => cases step? <;> simp
  | unary p o operand =>
    have hsign : o.sign.toList ≠ [] := by cases o <;> decide
    simp_all
  | binary p o left right =>
    have hsign : o.spaced.toList ≠ [] := by cases o <;> decide
    simp_all
  | comprehension p kind element clauses => cases kind <;> simp
  | yield p value? => cases value? <;> simp
  | _ => simp

end Source
end ScenarioCheck
