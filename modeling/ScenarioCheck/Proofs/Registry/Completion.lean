import ScenarioCheck.Proofs.Document.Cursor
import ScenarioCheck.Proofs.Pattern.Rendered
import ScenarioCheck.Registry.Completion

/-! Completing a step. What is offered at a cursor are the definitions of the kind of the line whose
pattern, with tokens in its slots, starts with the text typed so far. Typing on adds to that text, so
it can only take offers away. -/
namespace ScenarioCheck

/-! The text that is typed. -/

namespace Document

open Text (Blank trimStart leadingBlanks)

variable {line more : List Char} {t : Typed}

theorem Typed.shape_of_ofLine? (h : Typed.ofLine? line = some t) (hn : '\n' ∉ line) :
    ∃ indent gap, Blank indent ∧ Blank gap ∧ gap ≠ [] ∧
      (∀ c ∈ t.text.head?, Text.isBlank c = false) ∧
      line = indent ++ t.word.word.toList ++ gap ++ t.text := by
  unfold Typed.ofLine? at h
  obtain ⟨⟨word, after⟩, hword, h⟩ := Option.bind_eq_some_iff.mp h
  dsimp only at h
  split at h
  · cases h
  · rename_i hblanks
    obtain ⟨text, htext, h⟩ := Option.bind_eq_some_iff.mp h
    cases h
    obtain ⟨indent, hi, rfl⟩ :=
      (trimStart_eq_append_iff (head?_stepWord word)).mp (stepWordOf?_eq_some_iff.mp hword)
    have hfeed : '\n' ∉ trimStart after := fun hm =>
      hn (List.mem_append_right _ (List.dropWhile_subset _ hm))
    rw [singleLine?_eq hfeed] at htext
    cases htext
    refine ⟨indent, leadingBlanks after, hi, Text.blank_leadingBlanks after, by simpa using hblanks,
      Text.head?_trimStart after, ?_⟩
    rw [List.append_assoc _ (leadingBlanks after), Text.leadingBlanks_append_trimStart]

theorem Typed.exists_ofLine?_append (h : Typed.ofLine? line = some t) (hn : '\n' ∉ line ++ more) :
    ∃ t', Typed.ofLine? (line ++ more) = some t' ∧ t.text <+: t'.text := by
  obtain ⟨indent, gap, hi, hg, hne, hhead, hline⟩ :=
    Typed.shape_of_ofLine? h fun hm => hn (List.mem_append_left _ hm)
  have hmore : line ++ more = indent ++ t.word.word.toList ++ (gap ++ (t.text ++ more)) := by
    rw [hline]
    simp only [List.append_assoc]
  rw [hmore] at hn ⊢
  obtain ⟨column, ht⟩ := ofLine?_append hi t.word (leadingBlanks_ne_nil hg hne _)
    fun hm => hn (List.mem_append_right _ hm)
  refine ⟨_, ht, ?_⟩
  cases htext : t.text with
  | nil => exact List.nil_prefix
  | cons c rest =>
    -- the text has begun, so no more white space is taken off
    have htrim : trimStart (gap ++ (c :: rest ++ more)) = c :: rest ++ more :=
      Text.trimStart_append hg (by simpa [htext] using hhead)
    exact ⟨more, htrim.symm⟩

@[simp] theorem Typed.upTo?_natCast (line : List Char) (c : Nat) :
    Typed.upTo? line (some c) = Typed.ofLine? (line.take c) := by
  rw [Typed.upTo?, upTo, if_pos (Int.natCast_nonneg c), Int.toNat_natCast]

theorem Typed.exists_upTo? {c c' : Nat} (h : Typed.upTo? line (some c) = some t) (hle : c ≤ c')
    (hn : '\n' ∉ line) : ∃ t', Typed.upTo? line (some c') = some t' ∧ t.text <+: t'.text := by
  rw [Typed.upTo?_natCast] at h ⊢
  obtain ⟨more, hmore⟩ : line.take c <+: line.take c' := List.take_prefix_take_left hle
  rw [← hmore]
  exact Typed.exists_ofLine?_append h fun hm => hn (List.mem_of_mem_take (hmore ▸ hm))

end Document

/-! Patterns that start with a typed text. -/

namespace Pattern

def Opens (typed text : List Char) : Prop :=
  ∃ front rest, text = front ++ rest ∧ Agree typed front

variable {typed typed' text : List Char}

@[simp] theorem opens_iff : Opens typed text ↔ (Text.dropAgreeing typed text).isSome = true := by
  rw [Option.isSome_iff_exists]
  simp only [dropAgreeing_iff]
  exact exists_comm

instance : Decidable (Opens typed text) := decidable_of_iff _ opens_iff.symm

@[simp] theorem startsWith_iff {pattern typed : String} :
    startsWith pattern typed = true ↔ Opens typed.toList (tokenText pattern) := opens_iff.symm

theorem opens_of_prefix (h : typed <+: text) : Opens typed text := by
  obtain ⟨rest, rfl⟩ := h
  exact ⟨typed, rest, rfl, agree_self typed⟩

theorem Opens.of_prefix (h : Opens typed' text) (hp : typed <+: typed') : Opens typed text := by
  obtain ⟨front, rest, rfl, ha⟩ := h
  obtain ⟨more, rfl⟩ := hp
  refine ⟨front.take typed.length, front.drop typed.length ++ rest, ?_, ?_⟩
  · rw [← List.append_assoc, List.take_append_drop]
  · have htake := List.forall₂_take typed.length ha
    rwa [List.take_left] at htake

@[simp] theorem accepts_tokenText (pattern : String) :
    accepts pattern (String.ofList (tokenText pattern)) = true := by
  apply accepts_fill
  · rw [List.length_replicate, Cut.slots, List.length_map]
  · intro v hv
    obtain ⟨-, rfl⟩ := List.mem_replicate.mp hv
    decide

end Pattern

/-! Offers. -/

namespace Completion

open Document (Typed kindAt?)
open Pattern (Opens tokenText)
open Text (Blank)

variable {s : Snapshot} {document : String} {n : Nat} {raw : List Char}

theorem candidatesAt_eq {c : Nat} {typed : Typed}
    (hl : (Text.splitLines document.toList)[n]? = some raw)
    (ht : Typed.upTo? raw (some c) = some typed) : candidatesAt s document n c =
      (s.definitions.filter fun d => kindAt? (Text.splitLines document.toList) n = some d.kind ∧
        Opens typed.text (tokenText d.pattern)).map fun d => Candidate.ofDefinition d.kind d := by
  have hline : lineOf? document n = some (Text.splitLines document.toList, raw) := by
    simp [lineOf?, hl]
  unfold candidatesAt
  rw [hline]
  dsimp only
  rw [ht]
  cases kindAt? (Text.splitLines document.toList) n with
  | none => simp
  | some kind =>
    have hfilter : s.startingWith kind (String.ofList typed.text) =
        s.definitions.filter fun d => some kind = some d.kind ∧
          Opens typed.text (tokenText d.pattern) := by
      apply List.filter_congr
      intro d _
      rw [Bool.eq_iff_iff, Bool.and_eq_true, Pattern.startsWith_iff, String.toList_ofList,
        beq_iff_eq, decide_eq_true_iff, Option.some.injEq, eq_comm]
    dsimp only
    rw [candidates, hfilter]
    apply List.map_congr_left
    intro d hd
    obtain ⟨hkind, -⟩ := of_decide_eq_true (List.mem_filter.mp hd).2
    rw [Option.some.inj hkind]

theorem mem_candidates {d : Step.Definition} (hd : d ∈ s.definitions) {typed : List Char}
    (h : typed <+: tokenText d.pattern) :
    Candidate.ofDefinition d.kind d ∈ candidates s (String.ofList typed) d.kind := by
  have hstarts : Pattern.startsWith d.pattern (String.ofList typed) = true := by
    rw [Pattern.startsWith_iff, String.toList_ofList]
    exact Pattern.opens_of_prefix h
  exact List.mem_map_of_mem (List.mem_filter.mpr ⟨hd, by simp [hstarts]⟩)

/-- At a cursor in a step line the definitions of the kind of the line are offered, in order and once
each, that start with the text between the white space after the step word and the cursor. Further
to the right there are no other offers. Whatever a pattern starts with offers it, and with all tokens
it is matched. -/
theorem candidatesAt_narrows (s : Snapshot) :
    (∀ (document : String) (n c c' : Nat) (raw : List Char) (typed : Typed),
      (Text.splitLines document.toList)[n]? = some raw → c ≤ c' →
      Typed.upTo? raw (some c) = some typed →
        (∃ indent gap, Blank indent ∧ Blank gap ∧ gap ≠ [] ∧
          (∀ x ∈ typed.text.head?, Text.isBlank x = false) ∧
          raw.take c = indent ++ typed.word.word.toList ++ gap ++ typed.text) ∧
        (candidatesAt s document n c = (s.definitions.filter fun d =>
          kindAt? (Text.splitLines document.toList) n = some d.kind ∧
            Opens typed.text (tokenText d.pattern)).map fun d => Candidate.ofDefinition d.kind d) ∧
        (candidatesAt s document n c').Sublist (candidatesAt s document n c)) ∧
    (∀ d ∈ s.definitions, ∀ typed, typed <+: tokenText d.pattern →
      Candidate.ofDefinition d.kind d ∈ candidates s (String.ofList typed) d.kind) ∧
    ∀ pattern, Pattern.accepts pattern (String.ofList (tokenText pattern)) = true := by
  refine ⟨fun document n c c' raw typed hl hle ht => ?_, fun d hd typed h => mem_candidates hd h,
    Pattern.accepts_tokenText⟩
  have hn : '\n' ∉ raw := Text.lineFeed_notMem (List.mem_of_getElem? hl)
  obtain ⟨typed', ht', hprefix⟩ := Typed.exists_upTo? ht hle hn
  refine ⟨?_, candidatesAt_eq hl ht, ?_⟩
  · rw [Typed.upTo?_natCast] at ht
    exact Typed.shape_of_ofLine? ht fun hm => hn (List.mem_of_mem_take hm)
  · rw [candidatesAt_eq hl ht, candidatesAt_eq hl ht']
    apply List.Sublist.map
    apply List.monotone_filter_right
    intro d hd
    obtain ⟨hkind, hopens⟩ := of_decide_eq_true hd
    exact decide_eq_true ⟨hkind, hopens.of_prefix hprefix⟩

def sampleRegistry : Snapshot where
  definitions := [⟨"A \x7brole\x7d", .given, ⟨"s.py", 1, 1⟩, [], none⟩,
    ⟨"a user named \x7bname\x7d", .given, ⟨"s.py", 2, 1⟩, [], none⟩]

theorem candidatesAt_narrows_sampleRegistry :
    let document := "Given a user"
    (Text.splitLines document.toList)[0]? = some document.toList ∧
      Typed.upTo? document.toList (some 8) = some ⟨.primary .given, ['a', ' '], 6⟩ ∧
      (candidatesAt sampleRegistry document 0 8).map (·.label) =
        ["A \x7brole\x7d", "a user named \x7bname\x7d"] ∧
      (candidatesAt sampleRegistry document 0 12).map (·.label) = ["a user named \x7bname\x7d"] ∧
      (candidatesAt sampleRegistry document 0 12).Sublist
        (candidatesAt sampleRegistry document 0 8) := by
  intro document
  have hl : (Text.splitLines document.toList)[0]? = some document.toList := by decide
  have ht : Typed.upTo? document.toList (some 8) = some ⟨.primary .given, ['a', ' '], 6⟩ := by decide
  have hnarrows := (candidatesAt_narrows sampleRegistry).1 document 0 8 12 _ _ hl (by decide) ht
  exact ⟨hl, ht, by decide +kernel, by decide +kernel, hnarrows.2.2⟩

end Completion
end ScenarioCheck
