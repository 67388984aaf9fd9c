import ScenarioCheck.Proofs.Document.Quotes
import ScenarioCheck.Proofs.Document.Reached

/-! Documents that cannot be split. The visible headers of features and the quoted texts say whether
a document is refused, and the line at fault. -/
namespace ScenarioCheck.Document

open Text (trim)

def isFeatureHeader (raw : List Char) : Bool := "Feature:".toList.isPrefixOf (trim raw)

def featureHeadersFrom (line : Nat) (lines : List (List Char)) : List Numbered :=
  (visibleFrom none line lines).filter (isFeatureHeader ·.2)

def featureHeaders (text : String) : List Numbered :=
  featureHeadersFrom 0 (Text.splitLines text.toList)

/-- Feature headers and quoted texts that no document may have. Of two faults the second header is
the one that counts. -/
inductive Refused (headers : List Numbered) (quotes : List Quote) : Fault → Prop
  | secondFeature {first second : Numbered} {rest : List Numbered}
    (h : headers = first :: second :: rest) : Refused headers quotes (.secondFeature second.1)
  | openQuote {earlier : List Quote} {line : Nat} (h : headers.length ≤ 1)
    (hq : quotes = earlier ++ [⟨line, none⟩]) : Refused headers quotes (.openQuote line)

def Malformed (text : String) : Fault → Prop := Refused (featureHeaders text) (quotes text)

section Refused

variable {headers : List Numbered} {fault : Fault}

@[simp] theorem refused_second_iff {first second : Numbered} {rest : List Numbered}
    {quotes : List Quote} :
    Refused (first :: second :: rest) quotes fault ↔ fault = .secondFeature second.1 := by
  constructor
  · rintro (⟨h⟩ | ⟨h, -⟩)
    · cases h
      rfl
    · simp at h
  · rintro rfl
    exact .secondFeature rfl

theorem refused_open_iff (h : headers.length ≤ 1) {line : Nat} :
    Refused headers [⟨line, none⟩] fault ↔ fault = .openQuote line := by
  constructor
  · rintro (⟨rfl⟩ | ⟨-, hq⟩)
    · simp at h
    · have hlast := congrArg List.getLast? hq
      rw [List.getLast?_concat, List.getLast?_singleton] at hlast
      cases hlast
      rfl
  · rintro rfl
    exact .openQuote h (List.nil_append _).symm

theorem refused_cons_iff {q : Quote} (hq : q.closed? ≠ none) {quotes : List Quote} :
    Refused headers (q :: quotes) fault ↔ Refused headers quotes fault := by
  constructor
  · rintro (⟨h⟩ | ⟨h, hquotes⟩)
    · exact .secondFeature h
    · rename_i earlier line
      cases earlier with
      | nil =>
        cases hquotes
        exact absurd rfl hq
      | cons first earlier => exact .openQuote h (List.cons.inj hquotes).2
  · rintro (⟨h⟩ | ⟨h, rfl⟩)
    · exact .secondFeature h
    · exact .openQuote h List.cons_append.symm

theorem not_refused_nil (h : headers.length ≤ 1) : ¬Refused headers [] fault := by
  rintro (⟨rfl⟩ | ⟨-, hq⟩)
  · simp at h
  · simp at hq

end Refused

/-! Reading on from a line. -/

theorem IsVisible.exists_ofText_eq_feature_iff {raw : List Char} (hv : IsVisible raw) :
    (∃ name, Line.ofText raw = .header .feature name) ↔ isFeatureHeader raw = true := by
  have hword : "Feature:".toList = Header.feature.word.toList ++ [':'] := by decide
  have hstarts : isFeatureHeader raw = true ↔
      ∃ after, dropLiteral? (Header.feature.word.toList ++ [':']) (Text.trimStart raw) =
        some after := by
    rw [isFeatureHeader, ← isSome_dropLiteral?, hword, trim,
      dropLiteral?_trimEnd (getLast?_headerWord _), Option.isSome_map, Option.isSome_iff_exists]
  simp only [hstarts, hv.ofText_eq_header_iff, isHeader_iff, headerOf?_eq_some_iff,
    dropLiteral?_eq_some_iff, List.append_assoc, List.singleton_append]
  constructor
  · rintro ⟨name, after, h, -⟩
    exact ⟨after, h⟩
  · rintro ⟨after, h⟩
    exact ⟨_, after, h, rfl⟩

namespace Progress

variable {p : Progress} {uri : String}

def outcome (p : Progress) (uri : String) (line : Nat) (lines : List (List Char)) :
    Except Fault Feature :=
  match p.readFrom line lines with
  | .ok q => q.finish uri
  | .error fault => .error fault

theorem outcome_cons (line : Nat) (raw : List Char) (rest : List (List Char)) :
    p.outcome uri line (raw :: rest) =
      match p.next line raw with
      | .ok q => q.outcome uri (line + 1) rest
      | .error fault => .error fault := by
  unfold outcome
  rw [readFrom]
  cases p.next line raw <;> rfl

theorem outcome_quoted {mark : List Char} {opened : Nat} (hq : p.quote? = some (mark, opened))
    (line : Nat) (lines : List (List Char)) :
    p.outcome uri line lines =
      match lines.findIdx? (mark.isPrefixOf <| trim ·) with
      | none => .error (.openQuote opened)
      | some k =>
        { p with quote? := none }.outcome uri (line + (k + 1)) (lines.drop (k + 1)) := by
  induction lines generalizing line with
  | nil => simp [outcome, readFrom, finish, hq]
  | cons raw rest ih =>
    rw [outcome_cons, next, hq, List.findIdx?_cons]
    simp only [isSome_dropLiteral?]
    cases hm : mark.isPrefixOf (trim raw) with
    | true => simp
    | false =>
      rw [if_neg Bool.false_ne_true, if_neg Bool.false_ne_true]
      simp only [ih]
      cases rest.findIdx? (mark.isPrefixOf <| trim ·) with
      | none => rfl
      | some k => simp [Nat.add_assoc, Nat.add_comm 1]

def ownHeader (line : Nat) (raw : List Char) : List Numbered :=
  [(line, raw)].filter fun l => !isPassedOver (trim l.2) && isFeatureHeader l.2

theorem featureHeadersFrom_cons {raw : List Char}
    (hf : fences.find? (·.isPrefixOf (trim raw)) = none) (line : Nat) (rest : List (List Char)) :
    featureHeadersFrom line (raw :: rest) =
      ownHeader line raw ++ featureHeadersFrom (line + 1) rest := by
  have hout : outsideQuotes none line (raw :: rest) =
      [(line, raw)] ++ outsideQuotes none (line + 1) rest := by
    rw [outsideQuotes, hf, List.singleton_append]
  simp only [featureHeadersFrom, visibleFrom, ownHeader, hout, List.filter_append,
    List.filter_filter, Bool.and_comm]

/-- A line outside quoted text is refused if it is a feature header and there is one already. Else
reading goes on outside quoted text, with one feature header more if it is one. -/
theorem next_unquoted (hq : p.quote? = none) {raw : List Char}
    (hf : fences.find? (·.isPrefixOf (trim raw)) = none) (line : Nat) :
    (p.name?.isSome ∧ ownHeader line raw = [(line, raw)] ∧
        p.next line raw = .error (.secondFeature line)) ∨
      ∃ q, p.next line raw = .ok q ∧ q.quote? = none ∧
        q.name?.toList.length = p.name?.toList.length + (ownHeader line raw).length := by
  unfold next
  simp only [hq]
  cases hp : isPassedOver (trim raw) with
  | true =>
    simp [ofText_of_passedOver hf hp, ownHeader, hp, hq]
  | false =>
    have hv : IsVisible raw := ⟨hf, hp⟩
    have hown : ownHeader line raw = if isFeatureHeader raw then [(line, raw)] else [] := by
      simp [ownHeader, hp, List.filter_cons]
    by_cases hh : isFeatureHeader raw = true
    · obtain ⟨name, hl⟩ := hv.exists_ofText_eq_feature_iff.mpr hh
      rw [hown, if_pos hh]
      simp only [hl, header]
      cases hn : p.name? with
      | some first => simp
      | none => simp [close, hq]
    · have hl (name : List Char) : Line.ofText raw ≠ .header .feature name :=
        fun hl => hh (hv.exists_ofText_eq_feature_iff.mp ⟨name, hl⟩)
      rw [hown, if_neg hh]
      right
      cases hline : Line.ofText raw with
      | fence mark => exact absurd hline ((isVisible_iff.mp hv).1 mark)
      | passedOver => exact absurd hline (isVisible_iff.mp hv).2
      | description => exact ⟨p, rfl, hq, rfl⟩
      | step word text =>
        refine ⟨if p.inExamples then p else p.step line raw word text, ?_, ?_⟩
        · dsimp only
          split <;> rfl
        · split <;> simp [step, hq]
      | header h name =>
        have hne : h ≠ .feature := fun heq => hl name (heq ▸ hline)
        cases h <;> simp_all [header, close]

theorem outcome_fence (hq : p.quote? = none) {raw mark : List Char}
    (hf : fences.find? (·.isPrefixOf (trim raw)) = some mark) (line : Nat)
    (rest : List (List Char)) :
    p.outcome uri line (raw :: rest) =
      match rest.findIdx? (mark.isPrefixOf <| trim ·) with
      | none => .error (.openQuote line)
      | some k => p.outcome uri (line + 1 + (k + 1)) (rest.drop (k + 1)) := by
  have hclosed : { { p with quote? := some (mark, line) } with quote? := none } = p := by
    rw [← hq]
  have hquoted : { p with quote? := some (mark, line) }.outcome uri (line + 1) rest = _ :=
    outcome_quoted rfl (line + 1) rest
  simp only [hclosed] at hquoted
  rw [outcome_cons, next, hq, ofText_of_fence hf]
  exact hquoted

/-- Reading on outside quoted text fails as the feature headers, seen or to come, and the quoted
texts to come say. -/
theorem outcome_eq_error_iff (line : Nat) (lines : List (List Char)) (hq : p.quote? = none)
    (seen : List Numbered) (hs : seen.length = p.name?.toList.length) {fault : Fault} :
    p.outcome uri line lines = .error fault ↔
      Refused (seen ++ featureHeadersFrom line lines) (quotesFrom line lines) fault := by
  have hle {p : Progress} : p.name?.toList.length ≤ 1 := by cases p.name? <;> simp
  fun_induction quotesFrom line lines generalizing p seen with
  | case1 line =>
    have hnone : ¬Refused seen [] fault := not_refused_nil (hs ▸ hle)
    simpa [outcome, readFrom, finish, hq, featureHeadersFrom, visibleFrom, outsideQuotes]
      using hnone
  | case2 line raw rest hf ih =>
    rw [outcome_cons, featureHeadersFrom_cons hf]
    rcases next_unquoted hq hf line with ⟨hname, hown, hnext⟩ | ⟨q, hnext, hquote, hlength⟩
    · obtain ⟨name, hname⟩ := Option.isSome_iff_exists.mp hname
      have hone : seen.length = 1 := by simp [hs, hname]
      obtain ⟨first, rfl⟩ := List.length_eq_one_iff.mp hone
      rw [hnext, hown, List.singleton_append, List.singleton_append, refused_second_iff]
      simp [eq_comm]
    · rw [hnext, ← List.append_assoc]
      exact ih hquote _ (by rw [List.length_append, hs, hlength])
  | case3 line raw rest mark hf hopen =>
    rw [outcome_fence hq hf, featureHeadersFrom, visibleFrom_fence hf, visibleFrom_some, hopen]
    simp only [List.filter_nil, List.append_nil]
    rw [refused_open_iff (hs ▸ hle), Except.error.injEq, eq_comm]
  | case4 line raw rest mark hf k hclose ih =>
    rw [outcome_fence hq hf, featureHeadersFrom, visibleFrom_fence hf, visibleFrom_some, hclose,
      refused_cons_iff (by simp)]
    exact ih hq seen hs

end Progress

@[simp] theorem ofText_eq_error_iff (text uri : String) (fault : Fault) :
    ofText text uri = .error fault ↔ Malformed text fault :=
  Progress.outcome_eq_error_iff 0 _ rfl [] rfl

@[simp] theorem exists_malformed_iff (text : String) :
    (∃ fault, Malformed text fault) ↔
      2 ≤ (featureHeaders text).length ∨ ∃ q ∈ (quotes text).getLast?, q.closed? = none := by
  constructor
  · rintro ⟨fault, ⟨h⟩ | ⟨-, hq⟩⟩
    · exact .inl (by simp [h])
    · exact .inr ⟨_, by rw [hq, List.getLast?_concat]; rfl, rfl⟩
  · intro h
    match hheaders : featureHeaders text with
    | first :: second :: rest => exact ⟨_, .secondFeature hheaders⟩
    | [] | [_] =>
      obtain ⟨⟨opened, closed?⟩, hlast, hnone⟩ := h.resolve_left (by simp [hheaders])
      obtain rfl : closed? = none := hnone
      obtain ⟨earlier, hquotes⟩ := List.getLast?_eq_some_iff.mp hlast
      exact ⟨_, .openQuote (by simp [hheaders]) hquotes⟩

end ScenarioCheck.Document
