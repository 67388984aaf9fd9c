import ScenarioCheck.Proofs.Session.Host
import ScenarioCheck.Proofs.Validation.Reordered

/-! Full reloads. After one a registry has for every file what the pass has read from it, and for files
that the pass did not meet nothing. So a session does not remember what happened before, except for
the order of its files, and this order shows in the candidates of ambiguous steps only. -/
namespace ScenarioCheck

open Step (Definition)

namespace Snapshot

theorem nodup_firsts {α : Type} [DecidableEq α] (items : List α) : (firsts items).Nodup := by
  have collect (seen : List α) (h : seen.Nodup) :
      (items.foldl (fun seen x => if x ∈ seen then seen else seen ++ [x]) seen).Nodup := by
    induction items generalizing seen with
    | nil => exact h
    | cons x rest ih =>
      rw [List.foldl_cons]
      split
      · exact ih seen h
      · rename_i hx
        exact ih _ (List.concat_eq_append ▸ h.concat hx)
  exact collect [] List.nodup_nil

theorem ofFile_eq_nil_of_notMem_files {s : Snapshot} {file : String} (h : file ∉ s.files) :
    s.ofFile file = [] := by
  rw [ofFile, List.filter_eq_nil_iff]
  intro d hd hfile
  exact h (mem_firsts.mpr (List.mem_map.mpr ⟨d, hd, by simpa using hfile⟩))

theorem perm_of_ofFile_eq {s s' : Snapshot} (h : ∀ file, s.ofFile file = s'.ofFile file) :
    s.definitions.Perm s'.definitions := by
  rw [List.perm_iff_count]
  intro d
  have hcount := congrArg (List.count d) (h d.location.file)
  rwa [ofFile, ofFile, List.count_filter (by simp), List.count_filter (by simp)] at hcount

end Snapshot

namespace Project

def namesOf (w : Workplace) (paths : List Path) : List String :=
  paths.map fun path => (Path.resolve w.current path).shown

theorem Pass.nodup_keys_stepsOfAll (current : Path) (p : Pass)
    {met : List (String × List Definition)} (hm : (Ordered.keys met).Nodup)
    (notices : List Notice) (paths : List Path) :
    (Ordered.keys (p.stepsOfAll current met notices paths).1).Nodup := by
  induction paths generalizing p met notices with
  | nil => exact hm
  | cons path rest ih => exact ih _ (Ordered.nodup_keys_put hm) _

theorem Pass.mem_keys_stepsOfAll (current : Path) (p : Pass) {met : List (String × List Definition)}
    {notices : List Notice} {paths : List Path} {file : String}
    (h : file ∈ Ordered.keys (p.stepsOfAll current met notices paths).1) :
    file ∈ Ordered.keys met ∨ ∃ path ∈ paths, file = (Path.resolve current path).shown := by
  induction paths generalizing p met notices with
  | nil => exact .inl h
  | cons path rest ih =>
    rcases ih _ h with hmet | ⟨other, hother, rfl⟩
    · rcases Ordered.mem_keys_put.mp hmet with hmet | rfl
      · exact .inl hmet
      · exact .inr ⟨path, .head _, rfl⟩
    · exact .inr ⟨other, .tail _ hother, rfl⟩

variable (w : Workplace) (c : Configuration) (paths : List Path)

theorem nodup_keys_extractSteps : (Ordered.keys (extractSteps w c paths).1).Nodup := by
  have hnil : (Ordered.keys ([] : List (String × List Definition))).Nodup := List.nodup_nil
  exact Pass.nodup_keys_stepsOfAll w.current _ hnil [] paths

theorem keys_extractSteps_subset : Ordered.keys (extractSteps w c paths).1 ⊆ namesOf w paths := by
  intro file h
  rcases Pass.mem_keys_stepsOfAll w.current _ h with hnil | ⟨path, hpath, rfl⟩
  · cases hnil
  · exact List.mem_map_of_mem hpath

end Project

namespace Session

open Project Validation

/-! The write of a reload. -/

section Reload

variable (w : Workplace) (c : Configuration) (paths : List Path) (registry : Snapshot)

/-- What a reload registers: the files that have definitions lose them, unless they are read again. -/
def reloaded : List (String × List Definition) :=
  Ordered.putAll (registry.files.map fun file => (file, [])) (extractSteps w c paths).1

theorem nodup_keys_reloaded : (Ordered.keys (reloaded w c paths registry)).Nodup := by
  have hkeys : Ordered.keys (registry.files.map fun file => (file, ([] : List Definition))) =
      registry.files := by
    simp [Ordered.keys, Function.comp_def]
  apply Ordered.nodup_keys_putAll
  rw [hkeys]
  exact Snapshot.nodup_firsts _

def reload : Write :=
  .replaceFiles (reloaded w c paths registry) (nodup_keys_reloaded w c paths registry)

theorem wellPlaced_reload : (reload w c paths registry).WellPlaced :=
  (placed_nil registry.files).putAll (placed_extractSteps w c paths)

@[simp] theorem ofFile_after_reload (file : String) :
    (registry.after (reload w c paths registry)).ofFile file =
      (Ordered.get? file (extractSteps w c paths).1).getD [] := by
  have hget : Ordered.get? file (reloaded w c paths registry) =
      (Ordered.get? file (extractSteps w c paths).1).or
        (Ordered.get? file (registry.files.map fun file => (file, []))) :=
    Ordered.get?_putAll (nodup_keys_extractSteps w c paths)
  cases hlisted : Ordered.get? file (reloaded w c paths registry) with
  | none =>
    obtain ⟨hmet, hold⟩ := Option.or_eq_none_iff.mp (hget.symm.trans hlisted)
    have hnot : file ∉ (reload w c paths registry).files := Ordered.get?_eq_none_iff.mp hlisted
    have hfile : file ∉ registry.files := by
      rw [Ordered.get?_eq_none_iff] at hold
      simpa [Ordered.keys, Function.comp_def] using hold
    rw [Snapshot.ofFile_after_of_not_mem registry rfl hnot,
      Snapshot.ofFile_eq_nil_of_notMem_files hfile, hmet]
    rfl
  | some definitions =>
    rw [Snapshot.ofFile_after_of_mem registry (wellPlaced_reload w c paths registry)
      (Ordered.mem_of_get? hlisted)]
    rw [hlisted] at hget
    cases hmet : Ordered.get? file (extractSteps w c paths).1 with
    | some met =>
      rw [hmet, Option.some_or, Option.some.injEq] at hget
      exact hget
    | none =>
      rw [hmet, Option.none_or] at hget
      obtain ⟨_, -, hentry⟩ := List.mem_map.mp (Ordered.mem_of_get? hget.symm)
      cases hentry
      rfl

end Reload

/-! Reloads of a session. -/

section LoadAll

variable {s : Session} {w : Workplace} {c : Configuration} {notices : List Notice}
  {paths : List Path}

theorem revalidate_of_configuration (h : s.configuration? = some c) (w : Workplace) :
    (s.revalidate w).fault? = none ∧
      (s.revalidate w).session =
        { s with diagnostics := Ordered.putAll s.diagnostics (s.findings c) } := by
  unfold revalidate
  rw [inForce_of_known? (c := c) (by simp [known?, h]) w]
  exact ⟨rfl, rfl⟩

theorem withConfiguration_of_ok (hc : Configuration.require w s.start? s.file? = .ok (c, notices))
    (next : Configuration → Session → Turn) :
    (s.withConfiguration w next).session = (next c { s with configuration? := some c }).session ∧
      (s.withConfiguration w next).fault? = (next c { s with configuration? := some c }).fault? := by
  rw [withConfiguration, hc]
  exact Turn.andThen_of_fault?_eq_none rfl (next c)

theorem readSteps_reload (hc : s.configuration? = some c) (w : Workplace) (paths : List Path) :
    (s.readSteps w c (s.registry.files.map fun file => (file, [])) paths).fault? = none ∧
      ∃ diagnostics,
        (s.readSteps w c (s.registry.files.map fun file => (file, [])) paths).session =
          { s with registry := s.registry.after (reload w c paths s.registry), diagnostics } := by
  have hplaced := wellPlaced_reload w c paths s.registry
  have hregister : register (reloaded w c paths s.registry) s =
      { session := { s with registry := s.registry.after (reload w c paths s.registry) } } := by
    have hrun : s.registry.replaceFiles (reloaded w c paths s.registry) =
        .ok (s.registry.after (reload w c paths s.registry)) := by
      rw [Snapshot.after_of_wellPlaced _ hplaced]
      exact Write.run_of_wellPlaced hplaced s.registry
    rw [register, hrun]
  rw [reloaded] at hregister
  unfold readSteps
  dsimp only
  rw [hregister]
  obtain ⟨hsession, hfault⟩ := Turn.andThen_of_fault?_eq_none (t :=
    { session := { s with registry := s.registry.after (reload w c paths s.registry) }
      notices := (extractSteps w c paths).2 }) rfl (revalidate w)
  rw [hsession, hfault]
  obtain ⟨hnone, hsame⟩ := revalidate_of_configuration
    (s := { s with registry := s.registry.after (reload w c paths s.registry) }) hc w
  exact ⟨hnone, _, hsame⟩

section Succeeds

variable (hc : Configuration.require w s.start? s.file? = .ok (c, notices))
  (hp : c.findSteps w = .ok paths)

include hc hp

theorem loadAll_of_ok :
    (s.loadAll w).fault? = none ∧ ∃ diagnostics, (s.loadAll w).session =
      { s with
        configuration? := some c
        registry := s.registry.after (reload w c paths s.registry)
        diagnostics } := by
  rw [loadAll, (withConfiguration_of_ok hc _).1, (withConfiguration_of_ok hc _).2, hp]
  exact readSteps_reload (s := { s with configuration? := some c }) rfl w paths

@[simp] theorem documents_loadAll : (s.loadAll w).session.documents = s.documents := by
  obtain ⟨-, _, hsession⟩ := loadAll_of_ok hc hp
  rw [hsession]

@[simp] theorem configuration?_loadAll : (s.loadAll w).session.configuration? = some c := by
  obtain ⟨-, _, hsession⟩ := loadAll_of_ok hc hp
  rw [hsession]

@[simp] theorem ofFile_loadAll (file : String) :
    (s.loadAll w).session.registry.ofFile file =
      (Ordered.get? file (extractSteps w c paths).1).getD [] := by
  obtain ⟨-, _, hsession⟩ := loadAll_of_ok hc hp
  rw [hsession]
  exact ofFile_after_reload w c paths s.registry file

theorem ofFile_loadAll_eq_nil {file : String} (h : file ∉ namesOf w paths) :
    (s.loadAll w).session.registry.ofFile file = [] := by
  have hmet : file ∉ Ordered.keys (extractSteps w c paths).1 :=
    fun hmem => h (keys_extractSteps_subset w c paths hmem)
  rw [ofFile_loadAll hc hp, Ordered.get?_eq_none_iff.mpr hmet]
  rfl

end Succeeds

theorem loadAll_fault?_eq_none_iff : (s.loadAll w).fault? = none ↔
    ∃ c notices paths, Configuration.require w s.start? s.file? = .ok (c, notices) ∧
      c.findSteps w = .ok paths := by
  constructor
  · intro h
    unfold loadAll withConfiguration at h
    split at h
    · cases h
    · rename_i c notices hc
      cases hp : c.findSteps w with
      | error fault =>
        simp [hp, Turn.andThen, Turn.fail] at h
      | ok paths => exact ⟨c, notices, paths, hc, hp⟩
  · rintro ⟨c, notices, paths, hc, hp⟩
    exact (loadAll_of_ok hc hp).1

theorem loadAll_fault?_ne_misplaced (hk : s.Kept) (w : Workplace) (fault : Snapshot.Misplaced) :
    (s.loadAll w).fault? ≠ some (.misplaced fault) := by
  rcases loadAll_spec hk w with ⟨other, h⟩ | ⟨other, h, -⟩ | h
  · rw [h]
    exact nofun
  · rw [h]
    exact nofun
  · rw [h.fault]
    exact nofun

theorem consistent_loadAll (hk : s.Kept) (h : (s.loadAll w).fault? = none) :
    (s.loadAll w).session.Kept ∧ (s.loadAll w).session.Consistent := by
  rcases loadAll_spec hk w with ⟨fault, hfail⟩ | ⟨fault, hfault, -⟩ | hsettled
  · rw [hfail] at h
    cases h
  · rw [hfault] at h
    cases h
  · exact ⟨hsettled.kept, hsettled.consistent⟩

end LoadAll

/-! Findings that agree. -/

/-- Two sessions have findings for a document, and these differ at most in the order of candidates. -/
def AlikeAt (s t : Session) (uri : String) : Prop :=
  ∃ found found', Ordered.get? uri s.diagnostics = some found ∧
    Ordered.get? uri t.diagnostics = some found' ∧ List.Forall₂ Diagnostic.Alike found found'

theorem diagnostics_ofText_alike {registry registry' : Snapshot}
    (h : registry.definitions.Perm registry'.definitions) (r : Rules) (text uri : String) :
    List.Forall₂ Diagnostic.Alike (ofText r registry text uri).diagnostics
      (ofText r registry' text uri).diagnostics := by
  unfold ofText
  split
  · exact (validate_alike h r _).diagnostics
  · exact .nil

theorem alikeAt_of_consistent {s t : Session} {c : Configuration} {uri text : String}
    (hs : s.Consistent) (ht : t.Consistent) (hc : s.configuration? = some c)
    (hc' : t.configuration? = some c)
    (hregistry : ∀ file, s.registry.ofFile file = t.registry.ofFile file)
    (htext : Ordered.get? uri s.documents = some text)
    (htext' : Ordered.get? uri t.documents = some text) : AlikeAt s t uri := by
  obtain ⟨a, ha, hfound⟩ := hs.findings uri text htext
  obtain ⟨b, hb, hfound'⟩ := ht.findings uri text htext'
  obtain rfl : c = a := by simpa [known?, hc] using ha
  obtain rfl : c = b := by simpa [known?, hc'] using hb
  exact ⟨_, _, hfound, hfound',
    diagnostics_ofText_alike (Snapshot.perm_of_ofFile_eq hregistry) c.settings.rules text uri⟩

theorem documentChanged_of_configuration {s : Session} {c : Configuration} (hk : s.Kept)
    (hc : s.configuration? = some c) (w : Workplace) (uri text : String) :
    (s.documentChanged w uri text).session.Consistent ∧
      ∃ diagnostics, (s.documentChanged w uri text).session =
        { s with documents := Ordered.put uri text s.documents, diagnostics } := by
  have hk' : Kept { s with documents := Ordered.put uri text s.documents } :=
    ⟨Ordered.nodup_keys_put hk.nodup, fun other h => Ordered.mem_keys_put.mpr (.inl (hk.subset other h))⟩
  unfold documentChanged
  exact ⟨(revalidate_settled hk' hc w).consistent, _,
    (revalidate_of_configuration (s := { s with documents := Ordered.put uri text s.documents }) hc w).2⟩

/-! Two sessions that are reloaded under one configuration. -/

section Two

variable {s t : Session} {w : Workplace} {c : Configuration} {notices : List Notice}
  {paths : List Path} {uri text : String} (hk : s.Kept) (hk' : t.Kept)
  (hc : Configuration.require w s.start? s.file? = .ok (c, notices))
  (hc' : Configuration.require w t.start? t.file? = .ok (c, notices))
  (hp : c.findSteps w = .ok paths) (htext : Ordered.get? uri s.documents = some text)

include hk hk' hc hc' hp htext

theorem alikeAt_loadAll (htext' : Ordered.get? uri t.documents = some text) :
    AlikeAt (s.loadAll w).session (t.loadAll w).session uri := by
  rw [← documents_loadAll hc hp] at htext
  rw [← documents_loadAll hc' hp] at htext'
  have hconsistent := (consistent_loadAll hk (loadAll_of_ok hc hp).1).2
  have hconsistent' := (consistent_loadAll hk' (loadAll_of_ok hc' hp).1).2
  exact alikeAt_of_consistent hconsistent hconsistent' (configuration?_loadAll hc hp)
    (configuration?_loadAll hc' hp)
    (fun file => by rw [ofFile_loadAll hc hp, ofFile_loadAll hc' hp]) htext htext'

theorem alikeAt_loadAll_documentChanged :
    AlikeAt (s.loadAll w).session ((t.loadAll w).session.documentChanged w uri text).session uri := by
  rw [← documents_loadAll hc hp] at htext
  have hconsistent := (consistent_loadAll hk (loadAll_of_ok hc hp).1).2
  have hloaded := (consistent_loadAll hk' (loadAll_of_ok hc' hp).1).1
  have hknown := configuration?_loadAll hc' hp
  obtain ⟨hopened, found, hsession⟩ := documentChanged_of_configuration hloaded hknown w uri text
  rw [hsession] at hopened ⊢
  exact alikeAt_of_consistent hconsistent hopened (configuration?_loadAll hc hp) hknown
    (fun file => by rw [ofFile_loadAll hc hp, ofFile_loadAll hc' hp]) htext
    (Ordered.get?_put_self uri text _)

end Two

/-- A reload that succeeds forgets what happened before. Take two sessions of a project with any
histories; the second one may be fresh, with or without documents that were opened. Then the second
can be reloaded too, and the registries have the same definitions for each file, none for a file that
the pass did not select. The findings of a document that is open in the first one are those that it
gets in the second one, whether it was opened there before the reload or is opened after it, up to
the order of candidates. The registry never refuses what a reload writes. -/
theorem loadAll_forgets (start? file? : Option Path) (substitute? substitute?' : Option Configuration)
    (history history' : List (Workplace × Event)) (w : Workplace) :
    let s := ((Tracked.fresh start? file? substitute?).run history).session
    let fresh := ((Tracked.fresh start? file? substitute?').run history').session
    (∀ fault, (s.loadAll w).fault? ≠ some (.misplaced fault)) ∧
    ((s.loadAll w).fault? = none →
      (fresh.loadAll w).fault? = none ∧
      (∀ file, (s.loadAll w).session.registry.ofFile file =
        (fresh.loadAll w).session.registry.ofFile file) ∧
      (∃ c notices paths, Configuration.require w start? file? = .ok (c, notices) ∧
        c.findSteps w = .ok paths ∧
        ∀ file ∉ namesOf w paths, (s.loadAll w).session.registry.ofFile file = []) ∧
      ∀ uri text, Ordered.get? uri s.documents = some text →
        (Ordered.get? uri fresh.documents = some text →
          AlikeAt (s.loadAll w).session (fresh.loadAll w).session uri) ∧
        AlikeAt (s.loadAll w).session
          ((fresh.loadAll w).session.documentChanged w uri text).session uri) := by
  intro s fresh
  have hkept : s.Kept := ((Tracked.sound_fresh start? file? substitute?).run history).kept
  have hkept' : fresh.Kept := ((Tracked.sound_fresh start? file? substitute?').run history').kept
  obtain ⟨hstart, hfile⟩ := project_run start? file? substitute? history
  obtain ⟨hstart', hfile'⟩ := project_run start? file? substitute?' history'
  refine ⟨loadAll_fault?_ne_misplaced hkept w, fun h => ?_⟩
  obtain ⟨c, notices, paths, hc, hp⟩ := loadAll_fault?_eq_none_iff.mp h
  have hrequire : Configuration.require w start? file? = .ok (c, notices) := by
    rwa [hstart, hfile] at hc
  have hc' : Configuration.require w fresh.start? fresh.file? = .ok (c, notices) := by
    rwa [hstart', hfile']
  refine ⟨(loadAll_of_ok hc' hp).1, fun file => ?_,
    ⟨c, notices, paths, hrequire, hp, fun file => ofFile_loadAll_eq_nil hc hp⟩,
    fun uri text htext => ⟨fun htext' => ?_, ?_⟩⟩
  · rw [ofFile_loadAll hc hp, ofFile_loadAll hc' hp]
  · exact alikeAt_loadAll hkept hkept' hc hc' hp htext htext'
  · exact alikeAt_loadAll_documentChanged hkept hkept' hc hc' hp htext

/-- A project with one file, which is outside of those that the settings select. -/
def strayPlace : Workplace :=
  let text := "from step_forge import GivenBuilder\nGivenBuilder(\"a\").step(lambda ctx: \x7b\x7d).register()\n"
  { disk := Disk.write (Disk.write {} ["pyproject.toml"] "".toUTF8) ["lib.py"] text.toUTF8
    current := ⟨"/", []⟩ }

def openedStray : Workplace × Event := (strayPlace, .documentChanged "u" "Given a")

def strayHistory : List (Workplace × Event) :=
  [openedStray, (strayPlace, .stepsChanged [⟨"", ["lib.py"]⟩])]

theorem require_strayPlace : ∃ c notices,
    Configuration.require strayPlace none none = .ok (c, notices) ∧ c.findSteps strayPlace = .ok [] := by
  have hselected : (Configuration.require strayPlace none none).toOption.bind
      (fun r => (r.1.findSteps strayPlace).toOption) = some [] := by decide +kernel
  cases hc : Configuration.require strayPlace none none with
  | error fault => simp [hc, Except.toOption] at hselected
  | ok r =>
    refine ⟨r.1, r.2, rfl, ?_⟩
    cases hp : r.1.findSteps strayPlace with
    | error fault => simp [hc, hp, Except.toOption] at hselected
    | ok paths => simpa [hc, hp, Except.toOption] using hselected

theorem loadAll_forgets_strayHistory :
    (((Tracked.fresh none none none).run strayHistory).session.loadAll strayPlace).fault? = none ∧
      (((Tracked.fresh none none none).run strayHistory).session.loadAll
        strayPlace).session.registry.ofFile "/lib.py" = [] ∧
      AlikeAt (((Tracked.fresh none none none).run strayHistory).session.loadAll strayPlace).session
        (((Tracked.fresh none none none).run [openedStray]).session.loadAll strayPlace).session
        "u" := by
  have hforgets := loadAll_forgets none none none none strayHistory [openedStray] strayPlace
  obtain ⟨hstart, hfile⟩ := project_run none none none strayHistory
  have hopen := documents_run (Tracked.fresh none none none) strayHistory
  have hopen' := documents_run (Tracked.fresh none none none) [openedStray]
  dsimp only at hforgets
  -- the two sessions stay as they are: their steps would take long to compute
  generalize ((Tracked.fresh none none none).run strayHistory).session = s at *
  generalize ((Tracked.fresh none none none).run [openedStray]).session = fresh at *
  obtain ⟨c, notices, hc, hp⟩ := require_strayPlace
  have hloaded : (s.loadAll strayPlace).fault? = none :=
    loadAll_fault?_eq_none_iff.mpr ⟨c, notices, [], by rw [hstart, hfile, hc], hp⟩
  obtain ⟨-, -, ⟨c', _, paths, hc', hp', hdropped⟩, hfound⟩ := hforgets.2 hloaded
  cases hc.symm.trans hc'
  cases hp.symm.trans hp'
  exact ⟨hloaded, hdropped "/lib.py" List.not_mem_nil,
    (hfound "u" "Given a" (by rw [hopen]; rfl)).1 (by rw [hopen']; rfl)⟩

end Session
end ScenarioCheck
