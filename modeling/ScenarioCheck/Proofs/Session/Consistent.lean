import ScenarioCheck.Proofs.Ordered
import ScenarioCheck.Proofs.Project.Extraction
import ScenarioCheck.Session

/-! Sessions and their findings. The findings of a session are those of its open documents under the
configuration in force, from every event that validates on until one fails that has changed something
already. -/
namespace ScenarioCheck

namespace Session

open Project Validation
open Step (Definition)

/-- The configuration in force, as far as it is known without the disk: that of the last pass, or what
stands in for it. -/
def known? (s : Session) : Option Configuration := s.configuration?.or s.substitute?

/-- The findings of a session are those of its open documents: it has findings for these documents
only, and for each of them those that its validation gives under the configuration in force. -/
structure Consistent (s : Session) : Prop where
  uris : ∀ uri, uri ∈ Ordered.keys s.diagnostics ↔ uri ∈ Ordered.keys s.documents
  findings : ∀ uri text, Ordered.get? uri s.documents = some text →
    ∃ c, s.known? = some c ∧ Ordered.get? uri s.diagnostics = some (s.outcomeOf c uri text).diagnostics

/-- What holds of every session, whether or not its findings are those of its documents. -/
structure Kept (s : Session) : Prop where
  nodup : (Ordered.keys s.documents).Nodup
  subset : ∀ uri ∈ Ordered.keys s.diagnostics, uri ∈ Ordered.keys s.documents

/-- A turn that did not fail and after which the findings are those of the documents. -/
structure Turn.Settled (t : Turn) : Prop where
  fault : t.fault? = none
  kept : t.session.Kept
  consistent : t.session.Consistent

variable {s : Session} {w : Workplace} {c : Configuration}

/-! Validation. -/

theorem inForce_of_known? (h : s.known? = some c) (w : Workplace) :
    s.inForce w = .ok (c, s, []) := by
  unfold inForce
  unfold known? at h
  cases hc : s.configuration? with
  | some c' => simp_all
  | none => simp_all

theorem exists_substitute_of_inForce {s' : Session} {notices : List Notice}
    (h : s.inForce w = .ok (c, s', notices)) :
    (∃ substitute?, s' = { s with substitute? }) ∧ s'.known? = some c := by
  unfold inForce at h
  unfold known?
  split at h
  · rename_i hc
    cases h
    exact ⟨⟨_, rfl⟩, by simp [hc]⟩
  · rename_i hc hs
    cases h
    exact ⟨⟨_, rfl⟩, by simp [hc, hs]⟩
  · rename_i hc hs
    cases hload : Configuration.load w none none false with
    | error fault =>
      rw [hload] at h
      cases h
    | ok loaded =>
      rw [hload] at h
      cases h
      exact ⟨⟨_, rfl⟩, by simp [hc]⟩

@[simp] theorem keys_findings (s : Session) (c : Configuration) :
    Ordered.keys (s.findings c) = Ordered.keys s.documents := by
  simp [findings, Ordered.keys, Function.comp_def]

theorem consistent_of_findings (hk : s.Kept) (hc : s.known? = some c) :
    Consistent { s with diagnostics := Ordered.putAll s.diagnostics (s.findings c) } where
  uris uri := by
    rw [Ordered.mem_keys_putAll, keys_findings]
    exact or_iff_right_of_imp (hk.subset uri)
  findings uri text htext := by
    refine ⟨c, hc, ?_⟩
    have hfound : Ordered.get? uri (s.findings c) = some (s.outcomeOf c uri text).diagnostics := by
      rw [findings, Ordered.get?_map fun uri text => (s.outcomeOf c uri text).diagnostics, htext]
      rfl
    rw [Ordered.get?_putAll (by rw [keys_findings]; exact hk.nodup), hfound]
    rfl

theorem revalidate_spec (hk : s.Kept) (w : Workplace) :
    (∃ fault, s.inForce w = .error fault ∧ s.revalidate w = .fail s (.configuration fault)) ∨
      (s.revalidate w).Settled := by
  unfold revalidate
  cases h : s.inForce w with
  | error fault => exact .inl ⟨fault, rfl, rfl⟩
  | ok r =>
    obtain ⟨c, s', notices⟩ := r
    -- the findings are taken with the stand-in remembered
    obtain ⟨⟨substitute?, rfl⟩, hc⟩ := exists_substitute_of_inForce h
    have hconsistent := consistent_of_findings (s := { s with substitute? }) ⟨hk.nodup, hk.subset⟩ hc
    exact .inr ⟨rfl, ⟨hk.nodup, fun uri => (hconsistent.uris uri).mp⟩, hconsistent⟩

theorem revalidate_settled (hk : s.Kept) (hc : s.configuration? = some c) (w : Workplace) :
    (s.revalidate w).Settled := by
  rcases revalidate_spec hk w with ⟨fault, hfault, -⟩ | h
  · rw [inForce_of_known? (c := c) (by simp [known?, hc]) w] at hfault
    cases hfault
  · exact h

/-! Passes over the files of steps. -/

theorem Turn.andThen_of_fault?_eq_none {t : Turn} (h : t.fault? = none) (next : Session → Turn) :
    (t.andThen next).session = (next t.session).session ∧
      (t.andThen next).fault? = (next t.session).fault? := by
  unfold Turn.andThen
  rw [h]
  exact ⟨rfl, rfl⟩

theorem Turn.Settled.andThen {t : Turn} {next : Session → Turn} (h : t.fault? = none)
    (hnext : (next t.session).Settled) : (t.andThen next).Settled := by
  obtain ⟨hsession, hfault⟩ := Turn.andThen_of_fault?_eq_none h next
  exact ⟨hfault.trans hnext.fault, hsession ▸ hnext.kept, hsession ▸ hnext.consistent⟩

theorem register_of_placed {byFile : List (String × List Definition)} (h : Write.Placed byFile)
    (s : Session) : ∃ registry, register byFile s = { session := { s with registry } } := by
  unfold register
  rw [Write.replaceFiles_of_placed h]
  exact ⟨_, rfl⟩

theorem readSteps_settled (hk : s.Kept) (hc : s.configuration? = some c)
    {others : List (String × List Definition)} (ho : Write.Placed others) (paths : List Path) :
    (s.readSteps w c others paths).Settled := by
  obtain ⟨registry, hregistry⟩ := register_of_placed (ho.putAll (placed_extractSteps w c paths)) s
  unfold readSteps
  dsimp only
  rw [hregistry]
  exact .andThen rfl (revalidate_settled (s := { s with registry }) ⟨hk.nodup, hk.subset⟩ hc w)

theorem withConfiguration_spec (s : Session) (w : Workplace)
    (next : Configuration → Session → Turn) :
    (∃ fault, s.withConfiguration w next = .fail s (.configuration fault)) ∨
      ∃ c notices, s.withConfiguration w next =
        Turn.andThen { session := { s with configuration? := some c }, notices } (next c) := by
  unfold withConfiguration
  split
  · exact .inl ⟨_, rfl⟩
  · exact .inr ⟨_, _, rfl⟩

theorem placed_nil (files : List String) : Write.Placed (files.map fun file => (file, [])) := by
  simp [Write.Placed]

theorem loadAll_spec (hk : s.Kept) (w : Workplace) :
    (∃ fault, s.loadAll w = .fail s (.configuration fault)) ∨
      (∃ fault, (s.loadAll w).fault? = some (.glob fault) ∧ (s.loadAll w).session.Kept) ∨
      (s.loadAll w).Settled := by
  unfold loadAll
  rcases s.withConfiguration_spec w _ with h | ⟨c, notices, h⟩
  · exact .inl h
  · rw [h]
    have hk' : Kept { s with configuration? := some c } := ⟨hk.nodup, hk.subset⟩
    cases hfind : c.findSteps w with
    | error fault =>
      -- the new configuration is in force by now, and the findings are those under the old one
      refine .inr (.inl ⟨fault, ?_, ?_⟩)
      · simp [Turn.andThen, Turn.fail]
      · simpa [Turn.andThen, Turn.fail] using hk'
    | ok paths =>
      exact .inr (.inr (.andThen rfl (readSteps_settled hk' rfl (placed_nil _) paths)))

theorem stepsChanged_spec (hk : s.Kept) (w : Workplace) (paths : List Path) :
    (∃ fault, s.stepsChanged w paths = .fail s (.configuration fault)) ∨
      (s.stepsChanged w paths).Settled := by
  unfold stepsChanged
  rcases s.withConfiguration_spec w _ with h | ⟨c, notices, h⟩
  · exact .inl h
  · rw [h]
    have hk' : Kept { s with configuration? := some c } := ⟨hk.nodup, hk.subset⟩
    exact .inr (.andThen rfl (readSteps_settled hk' rfl (placed_nil []) paths))

/-! Documents. -/

theorem known?_of_inForce_eq_error {fault : ConfigFault} (h : s.inForce w = .error fault) :
    s.known? = none := by
  rw [Option.eq_none_iff_forall_ne_some]
  intro c hc
  rw [inForce_of_known? hc w] at h
  cases h

theorem stepsDeleted_spec (hk : s.Kept) (w : Workplace) (path : Path) :
    ((∃ fault, (s.stepsDeleted w path).fault? = some (.configuration fault)) ∧
        (s.stepsDeleted w path).session.Kept ∧
        (s.Consistent → (s.stepsDeleted w path).session.Consistent)) ∨
      (s.stepsDeleted w path).Settled := by
  unfold stepsDeleted
  dsimp only
  generalize s.registry.removeFile (Path.resolve w.current path).shown = registry
  have hk' : Kept { s with registry } := ⟨hk.nodup, hk.subset⟩
  rcases revalidate_spec hk' w with ⟨fault, hfault, h⟩ | h
  · rw [h]
    refine .inl ⟨⟨fault, rfl⟩, hk', fun hs => ⟨hs.uris, fun uri text htext => ?_⟩⟩
    -- the steps are gone already, but an open document would need a configuration for its findings
    have hunknown := known?_of_inForce_eq_error (s := { s with registry }) hfault
    obtain ⟨c, hc, -⟩ := hs.findings uri text htext
    cases hunknown.symm.trans hc
  · exact .inr h

theorem documentChanged_spec (hk : s.Kept) (w : Workplace) (uri text : String) :
    ((∃ fault, (s.documentChanged w uri text).fault? = some (.configuration fault)) ∧
        (s.documentChanged w uri text).session.Kept) ∨
      (s.documentChanged w uri text).Settled := by
  unfold documentChanged
  have hk' : Kept { s with documents := Ordered.put uri text s.documents } :=
    ⟨Ordered.nodup_keys_put hk.nodup, fun other h => Ordered.mem_keys_put.mpr (.inl (hk.subset other h))⟩
  rcases revalidate_spec hk' w with ⟨fault, -, h⟩ | h
  · -- the document is open by now, and has no findings
    rw [h]
    exact .inl ⟨⟨fault, rfl⟩, hk'⟩
  · exact .inr h

theorem kept_documentClosed (hk : s.Kept) (uri : String) :
    (s.documentClosed uri).session.Kept where
  nodup := Ordered.nodup_keys_erase hk.nodup
  subset other h := by
    obtain ⟨hmem, hne⟩ := Ordered.mem_keys_erase.mp h
    exact Ordered.mem_keys_erase.mpr ⟨hk.subset other hmem, hne⟩

theorem consistent_documentClosed (hs : s.Consistent) (uri : String) :
    (s.documentClosed uri).session.Consistent where
  uris other := by
    simp only [documentClosed, Ordered.mem_keys_erase, hs.uris]
  findings other text h := by
    simp only [documentClosed] at h ⊢
    have hne : other ≠ uri := by
      rintro rfl
      have hnone : Ordered.get? other (Ordered.erase other s.documents) = none :=
        Ordered.get?_eq_none_iff.mpr fun hm => (Ordered.mem_keys_erase.mp hm).2 rfl
      rw [hnone] at h
      cases h
    rw [Ordered.get?_erase_of_ne hne] at h ⊢
    exact hs.findings other text h

/-! Histories. -/

/-- An event fails after it changed something that the findings of open documents depend on: a pass
whose patterns are refused has put its configuration in force, and a document whose validation fails
is open. -/
def Event.spoils : Event → Fault → Bool
  | .loadAll, .glob _ => true
  | .documentChanged .., _ => true
  | _, _ => false

def Event.validates : Event → Bool
  | .documentClosed _ => false
  | _ => true

/-- What an event does to a session: its findings are those of its documents after the event if it
validated them, or if they were before and the event did not spoil them. -/
structure Turn.Follows (s : Session) (e : Event) (t : Turn) : Prop where
  kept : t.session.Kept
  validated : t.fault? = none → e.validates = true → t.session.Consistent
  unspoiled : s.Consistent → (∀ fault, t.fault? = some fault → e.spoils fault = false) →
    t.session.Consistent

namespace Turn.Follows

variable {e : Event} {t : Turn} {fault : Fault}

theorem of_settled (h : t.Settled) : t.Follows s e :=
  ⟨h.kept, fun _ _ => h.consistent, fun _ _ => h.consistent⟩

theorem of_fault (hk : t.session.Kept) (hf : t.fault? = some fault)
    (hc : s.Consistent → e.spoils fault = false → t.session.Consistent) : t.Follows s e where
  kept := hk
  validated h := by
    rw [hf] at h
    cases h
  unspoiled hs h := hc hs (h fault hf)

end Turn.Follows

theorem handle_follows (hk : s.Kept) (w : Workplace) (e : Event) : (s.handle w e).Follows s e := by
  cases e with
  | loadAll =>
    rcases loadAll_spec hk w with ⟨fault, h⟩ | ⟨fault, hf, hk'⟩ | h
    · rw [handle, h]
      exact .of_fault hk rfl fun hs _ => hs
    · exact .of_fault hk' hf fun _ hspoils => nomatch hspoils
    · exact .of_settled h
  | stepsChanged paths =>
    rcases stepsChanged_spec hk w paths with ⟨fault, h⟩ | h
    · rw [handle, h]
      exact .of_fault hk rfl fun hs _ => hs
    · exact .of_settled h
  | stepsDeleted path =>
    rcases stepsDeleted_spec hk w path with ⟨⟨fault, hf⟩, hk', hc⟩ | h
    · exact .of_fault hk' hf fun hs _ => hc hs
    · exact .of_settled h
  | documentChanged uri text =>
    rcases documentChanged_spec hk w uri text with ⟨⟨fault, hf⟩, hk'⟩ | h
    · exact .of_fault hk' hf fun _ hspoils => nomatch hspoils
    · exact .of_settled h
  | documentClosed uri =>
    exact ⟨kept_documentClosed hk uri, fun _ => nofun, fun hs _ => consistent_documentClosed hs uri⟩

/-- A session, and whether an event has spoiled its findings since the last one that validated. -/
structure Tracked where
  session : Session
  isSpoiled : Bool := false

namespace Tracked

def step (t : Tracked) (event : Workplace × Event) : Tracked :=
  let turn := t.session.handle event.1 event.2
  { session := turn.session
    isSpoiled := match turn.fault? with
      | some fault => t.isSpoiled || event.2.spoils fault
      | none => t.isSpoiled && !event.2.validates }

def run (t : Tracked) (history : List (Workplace × Event)) : Tracked := history.foldl step t

structure Sound (t : Tracked) : Prop where
  kept : t.session.Kept
  consistent : t.isSpoiled = false → t.session.Consistent

variable {t : Tracked}

theorem Sound.step (h : t.Sound) (event : Workplace × Event) : (t.step event).Sound := by
  have hf := handle_follows h.kept event.1 event.2
  refine ⟨hf.kept, fun hspoiled => ?_⟩
  simp only [Tracked.step] at hspoiled ⊢
  split at hspoiled
  · rename_i fault hfault
    rw [Bool.or_eq_false_iff] at hspoiled
    refine hf.unspoiled (h.consistent hspoiled.1) fun fault' hfault' => ?_
    cases hfault.symm.trans hfault'
    exact hspoiled.2
  · rename_i hfault
    rcases Bool.and_eq_false_iff.mp hspoiled with hbefore | hvalidates
    · refine hf.unspoiled (h.consistent hbefore) fun fault hsome => ?_
      cases hfault.symm.trans hsome
    · exact hf.validated hfault (by simpa using hvalidates)

theorem Sound.run (h : t.Sound) (history : List (Workplace × Event)) : (t.run history).Sound := by
  induction history generalizing t with
  | nil => exact h
  | cons event history ih => exact ih (h.step event)

def fresh (start? file? : Option Path) (substitute? : Option Configuration) : Tracked :=
  { session := { start?, file?, substitute? } }

theorem sound_fresh (start? file? : Option Path) (substitute? : Option Configuration) :
    (fresh start? file? substitute?).Sound where
  kept := ⟨List.nodup_nil, nofun⟩
  consistent _ := ⟨fun _ => .rfl, nofun⟩

end Tracked

/-- After every event of every history a session has findings for open documents only, and unless they
are spoiled, its findings are those of its open documents under the configuration in force. -/
theorem consistent_after (start? file? : Option Path) (substitute? : Option Configuration)
    (history : List (Workplace × Event)) :
    let t := (Tracked.fresh start? file? substitute?).run history
    (∀ uri ∈ Ordered.keys t.session.diagnostics, uri ∈ Ordered.keys t.session.documents) ∧
      (t.isSpoiled = false → t.session.Consistent) := by
  have h := (Tracked.sound_fresh start? file? substitute?).run history
  exact ⟨h.kept.subset, h.consistent⟩

def workplaceOf (configuration : String) : Workplace where
  disk := Disk.write {} ["pyproject.toml"] configuration.toUTF8
  current := ⟨"/", []⟩

/-- A document is open when the file changes: it switches a rule off, and has a pattern for files of
steps that is refused. -/
def refusedHistory : List (Workplace × Event) :=
  let changed := workplaceOf
    "[tool.step-forge]\nstep-files = [\"\"]\ndisable-rules = [\"undefined-step\"]\n"
  [(workplaceOf "", .loadAll), (workplaceOf "", .documentChanged "u" "Given a"), (changed, .loadAll)]

theorem consistent_after_refusedHistory :
    let t := (Tracked.fresh none none none).run
      (refusedHistory ++ [(workplaceOf "", .documentChanged "v" "When b")])
    t.isSpoiled = false ∧ Ordered.keys t.session.documents = ["u", "v"] ∧ t.session.Consistent := by
  intro t
  obtain ⟨hspoiled, hopen⟩ : t.isSpoiled = false ∧ Ordered.keys t.session.documents = ["u", "v"] := by
    decide +kernel
  exact ⟨hspoiled, hopen, (consistent_after none none none _).2 hspoiled⟩

/-- The pass that is refused leaves the finding of the rule that its configuration switches off. -/
theorem not_consistent_after_refusedHistory :
    let s := ((Tracked.fresh none none none).run refusedHistory).session
    s.documents = [("u", "Given a")] ∧ ¬ s.Consistent := by
  intro s
  obtain ⟨hopen, hdiffers⟩ : s.documents = [("u", "Given a")] ∧
      s.known?.all (fun c => decide (Ordered.get? "u" s.diagnostics ≠
        some (s.outcomeOf c "u" "Given a").diagnostics)) = true := by decide +kernel
  refine ⟨hopen, fun h => ?_⟩
  obtain ⟨c, hc, hfound⟩ := h.findings "u" "Given a" (by rw [hopen]; rfl)
  rw [hc] at hdiffers
  exact of_decide_eq_true hdiffers hfound

end Session
end ScenarioCheck
