import ScenarioCheck.Proofs.Project.Files
import ScenarioCheck.Proofs.Session.Reload

/-! The files that a reload reads. A pass reads each file that it is given once; since the files are
found without repetition and are told apart by their texts, a registry has after a reload what one
reading of each file gives, and nothing of any other file. -/
namespace ScenarioCheck

open Step (Definition)

namespace Project

/-- Files with what one reading of each gives, later ones with the modules of earlier ones met. -/
def Pass.readings (p : Pass) : List Path → List (Path × List Definition)
  | [] => []
  | path :: rest => (path, (p.stepsOf path).2.1) :: (p.stepsOf path).1.readings rest

@[simp] theorem Pass.map_fst_readings (p : Pass) (paths : List Path) :
    (p.readings paths).map (·.1) = paths := by
  induction paths generalizing p with
  | nil => rfl
  | cons path rest ih => rw [readings, List.map_cons, ih]

def byText (readings : List (Path × List Definition)) : List (String × List Definition) :=
  readings.map fun (path, definitions) => (path.shown, definitions)

theorem Pass.fst_stepsOfAll {current : Path} {paths : List Path}
    (h : ∀ path ∈ paths, path.IsResolved) (p : Pass) (met : List (String × List Definition))
    (notices : List Notice) : (p.stepsOfAll current met notices paths).1 =
      Ordered.putAll met (byText (p.readings paths)) := by
  induction paths generalizing p met notices with
  | nil => rfl
  | cons path rest ih =>
    obtain ⟨hpath, hrest⟩ := List.forall_mem_cons.mp h
    rw [stepsOfAll, hpath.resolve_eq, ih hrest]
    rfl

@[simp] theorem keys_byText (p : Pass) (paths : List Path) :
    Ordered.keys (byText (p.readings paths)) = paths.map Path.shown := by
  rw [Ordered.keys, byText, List.map_map]
  conv_rhs => rw [← p.map_fst_readings paths, List.map_map]
  rfl

theorem fst_extractSteps {w : Workplace} {c : Configuration} {paths : List Path}
    (h : ∀ path ∈ paths, path.IsResolved) (hn : (paths.map Path.shown).Nodup) :
    (extractSteps w c paths).1 = byText ((Pass.start w c).readings paths) := by
  rw [extractSteps, Pass.fst_stepsOfAll h]
  refine Ordered.ofList_eq_self ?_
  rwa [keys_byText]

end Project

theorem Snapshot.perm_listed {s : Snapshot} {entries : List (String × List Definition)}
    (hp : Write.Placed entries) (hn : (Ordered.keys entries).Nodup)
    (h : ∀ file, s.ofFile file = (Ordered.get? file entries).getD []) :
    s.definitions.Perm (entries.flatMap (·.2)) := by
  have hlisted : ∀ file, s.ofFile file = (⟨0, entries.flatMap (·.2)⟩ : Snapshot).ofFile file := by
    intro file
    rw [h]
    cases hget : Ordered.get? file entries with
    | none =>
      refine (Write.filter_listed_eq_nil hp fun e he heq => ?_).symm
      exact Ordered.get?_eq_none_iff.mp hget (List.mem_map.mpr ⟨e, he, heq⟩)
    | some definitions => exact (Write.filter_listed hp hn (Ordered.mem_of_get? hget)).symm
  exact perm_of_ofFile_eq hlisted

namespace Session

open Project

/-- A registry has what one reading of each of some files gives, and nothing of other files. -/
structure ReadOnce (w : Workplace) (c : Configuration) (steps : List Path) (registry : Snapshot) :
    Prop where
  distinct : (steps.map Path.shown).Nodup
  once : registry.definitions.Perm (((Pass.start w c).readings steps).flatMap (·.2))
  source : ∀ d ∈ registry.definitions, ∃ p ∈ steps, d.location.file = p.shown
  absent : ∀ p : Path, p.IsResolved → w.disk.isFile p = true → p ∉ steps →
    registry.ofFile p.shown = []

structure StepFiles (found steps : List Path) : Prop where
  sublist : steps.Sublist found
  mem_iff : ∀ p, p ∈ steps ↔ p ∈ found ∧ Configuration.EndsInPy p

theorem stepFiles_filter (found : List Path) : StepFiles found (found.filter (·.suffix == ".py")) := by
  refine ⟨List.filter_sublist, fun p => ?_⟩
  rw [List.mem_filter, beq_iff_eq, Configuration.suffix_eq_iff]

theorem eq_of_shown_eq {d : Disk} (h : d.IsNamed) {p q : Path} (hp : p.IsResolved)
    (hpfile : d.isFile p = true) (hq : q.IsResolved) (hqfile : d.isFile q = true)
    (heq : p.shown = q.shown) : p = q := by
  rw [← h.ofText_shown hp hpfile, heq, h.ofText_shown hq hqfile]

section LoadAll

variable {s : Session} {w : Workplace} {c : Configuration} {notices : List Notice}
  {steps : List Path} (hnamed : w.disk.IsNamed)
  (hc : Configuration.require w s.start? s.file? = .ok (c, notices))
  (hp : c.findSteps w = .ok steps)
  (hsteps : ∀ p ∈ steps, p.IsResolved ∧ w.disk.isFile p = true)

include hnamed hsteps in
theorem nodup_shown (hn : steps.Nodup) : (steps.map Path.shown).Nodup :=
  hn.map_on fun p hp q hq =>
    eq_of_shown_eq hnamed (hsteps p hp).1 (hsteps p hp).2 (hsteps q hq).1 (hsteps q hq).2

include hc hp hsteps in
theorem exists_of_mem_definitions {d : Definition}
    (hd : d ∈ (s.loadAll w).session.registry.definitions) :
    ∃ p ∈ steps, d.location.file = p.shown := by
  have hname : d.location.file ∈ namesOf w steps := by
    by_contra hnot
    have hown : d ∈ (s.loadAll w).session.registry.ofFile d.location.file :=
      List.mem_filter.mpr ⟨hd, by simp⟩
    rw [ofFile_loadAll_eq_nil hc hp hnot] at hown
    cases hown
  obtain ⟨p, hmem, hshown⟩ := List.mem_map.mp hname
  rw [(hsteps p hmem).1.resolve_eq] at hshown
  exact ⟨p, hmem, hshown.symm⟩

include hnamed hc hp hsteps

theorem readOnce_loadAll (hn : steps.Nodup) :
    ReadOnce w c steps (s.loadAll w).session.registry := by
  have hdistinct := nodup_shown hnamed hsteps hn
  have hextract := fst_extractSteps (fun p hp => (hsteps p hp).1) hdistinct (w := w) (c := c)
  have hplaced := placed_extractSteps w c steps
  rw [hextract] at hplaced
  have hkeys : (Ordered.keys (byText ((Pass.start w c).readings steps))).Nodup := by
    rwa [keys_byText]
  refine ⟨hdistinct, ?_, fun d => exists_of_mem_definitions hc hp hsteps,
    fun p hresolved hfile hnot => ?_⟩
  · have hperm := Snapshot.perm_listed hplaced hkeys fun file => by
      rw [ofFile_loadAll hc hp, hextract]
    rwa [byText, List.flatMap_map] at hperm
  · refine ofFile_loadAll_eq_nil hc hp fun hname => ?_
    obtain ⟨q, hq, hshown⟩ := List.mem_map.mp hname
    rw [(hsteps q hq).1.resolve_eq] at hshown
    exact hnot (eq_of_shown_eq hnamed (hsteps q hq).1 (hsteps q hq).2 hresolved hfile hshown ▸ hq)

end LoadAll

/-- Files are found exactly and once. Whatever paths patterns lead to, the files that are gathered do
not repeat; one is there exactly if it is a regular file that some pattern leads to and none excludes;
and they stand in the order of the first pattern, and of paths within one. Of them the files of steps
are those whose name is more than its ending. After a reload the registry has what one reading of each
file of steps gives, and nothing of any other file, be it excluded or not. -/
theorem discovery_exact (w : Workplace) (hcurrent : w.current.isAbsolute = true) :
    (∀ (c : Configuration) (yields : List (List Path)),
      (∀ yielded ∈ yields, ∀ q ∈ yielded, q.isAbsolute = true) →
        c.Discovery w yields (c.gather w yields)) ∧
    (∀ (c : Configuration) (patterns : List String) (yields : List (List Path)),
      c.Globs w patterns yields →
        ∃ found, c.filesOf w patterns = .ok found ∧ c.Discovery w yields found) ∧
    (∀ (c : Configuration) (found : List Path), c.filesOf w c.settings.stepFiles = .ok found →
      ∃ steps, c.findSteps w = .ok steps ∧ StepFiles found steps) ∧
    ∀ s : Session, w.disk.IsNamed → (s.loadAll w).fault? = none →
      ∃ c notices yields found steps,
        Configuration.require w s.start? s.file? = .ok (c, notices) ∧
        c.Globs w c.settings.stepFiles yields ∧
        c.filesOf w c.settings.stepFiles = .ok found ∧ c.Discovery w yields found ∧
        c.findSteps w = .ok steps ∧ StepFiles found steps ∧
        ReadOnce w c steps (s.loadAll w).session.registry := by
  have hglobs (c : Configuration) (patterns : List String) (yields : List (List Path))
      (h : c.Globs w patterns yields) :
      c.filesOf w patterns = .ok (c.gather w yields) ∧ c.Discovery w yields (c.gather w yields) :=
    ⟨(Configuration.filesOf_eq_ok_iff w c).mpr ⟨yields, h, rfl⟩,
      Configuration.discovery_gather (Configuration.isAbsolute_of_globs hcurrent h)⟩
  refine ⟨fun c yields => Configuration.discovery_gather,
    fun c patterns yields h => ⟨_, hglobs c patterns yields h⟩, fun c found hfound => ?_,
    fun s hnamed hloaded => ?_⟩
  · refine ⟨_, ?_, stepFiles_filter found⟩
    rw [Configuration.findSteps, hfound]
    rfl
  · obtain ⟨c, notices, steps, hc, hp⟩ := loadAll_fault?_eq_none_iff.mp hloaded
    obtain ⟨yields, hyields, rfl⟩ := Configuration.findSteps_eq_ok_iff.mp hp
    obtain ⟨hfound, hdiscovery⟩ := hglobs c _ yields hyields
    refine ⟨c, notices, yields, _, _, hc, hyields, hfound, hdiscovery, hp, stepFiles_filter _,
      readOnce_loadAll hnamed hc hp (fun p hmem => ?_) (hdiscovery.nodup.filter _)⟩
    have hfound := (List.mem_filter.mp hmem).1
    obtain ⟨_, _, q, _, hgives⟩ := (hdiscovery.mem_iff p).mp hfound
    exact ⟨hgives.resolves ▸ Path.isResolved_resolve _ _, hdiscovery.regular p hfound⟩

/-- A project with overlapping patterns for files of steps and one file that is excluded. -/
def overlapPlace : Workplace :=
  let settings := "[tool.step-forge]\n" ++
    "step-files = [\"a/*.py\", \"**/*.py\"]\n" ++
    "exclude = [\"b/**\"]\n"
  let steps := "from step_forge import GivenBuilder\n" ++
    "GivenBuilder(\"a\").step(lambda ctx: \x7b\x7d).register()\n"
  let d := Disk.write {} ["pyproject.toml"] settings.toUTF8
  let d := Disk.write d ["a", "s.py"] steps.toUTF8
  { disk := Disk.write d ["b", "s.py"] steps.toUTF8, current := ⟨"/", []⟩ }

def overlapConfiguration : Configuration :=
  { settings := { stepFiles := ["a/*.py", "**/*.py"], exclude := ["b/**"] }
    path? := some ⟨"/", ["pyproject.toml"]⟩ }

def readFile : Path := ⟨"/", ["a", "s.py"]⟩

def excludedFile : Path := ⟨"/", ["b", "s.py"]⟩

theorem globs_overlapPlace :
    overlapConfiguration.Globs overlapPlace ["a/*.py", "**/*.py"]
      [[readFile], [readFile, excludedFile]] := by
  have hroot : overlapPlace.disk.isDirectory (overlapConfiguration.root overlapPlace) = true := by
    decide +kernel
  have hfirst : (select overlapPlace.disk (overlapConfiguration.root overlapPlace)
      [.name "a", .matching "*.py"]).eraseDups = [readFile] := by decide +kernel
  have hsecond : (select overlapPlace.disk (overlapConfiguration.root overlapPlace)
      [.anyDepth, .matching "*.py"]).eraseDups = [readFile, excludedFile] := by decide +kernel
  refine .cons ?_ (.cons ?_ .nil)
  · rw [← hfirst]
    exact glob_of_components (by decide +kernel) hroot
  · rw [← hsecond]
    exact glob_of_components (by decide +kernel) hroot

theorem discovery_exact_overlapPlace :
    overlapConfiguration.Discovery overlapPlace [[excludedFile, readFile], [readFile]]
        (overlapConfiguration.gather overlapPlace [[excludedFile, readFile], [readFile]]) ∧
      ∃ found steps, overlapConfiguration.filesOf overlapPlace ["a/*.py", "**/*.py"] = .ok found ∧
        found.Nodup ∧ readFile ∈ found ∧ excludedFile ∉ found ∧
        overlapConfiguration.findSteps overlapPlace = .ok steps ∧ readFile ∈ steps ∧
        ReadOnce overlapPlace overlapConfiguration steps
          (Session.loadAll overlapPlace {}).session.registry := by
  obtain ⟨hgather, hfiles, hsteps, hreload⟩ := discovery_exact overlapPlace rfl
  obtain ⟨found, hfound, hdiscovery⟩ := hfiles overlapConfiguration _ _ globs_overlapPlace
  obtain ⟨steps, hp, hstepFiles⟩ := hsteps overlapConfiguration found hfound
  have hread : readFile ∈ found := (hdiscovery.mem_iff readFile).mpr
    ⟨[readFile], .head _, readFile, .head _, by decide +kernel, by decide +kernel, by decide +kernel⟩
  have hexcluded : excludedFile ∉ found := by
    intro hmem
    have hinside := (hdiscovery.inside excludedFile ⟨"", ["b", "s.py"]⟩ (by decide +kernel)).mp hmem
    exact absurd (hinside.2 "b/**" (.head _)) (by decide +kernel)
  have hc : Configuration.require overlapPlace none none = .ok (overlapConfiguration, []) := by
    decide +kernel
  have hloaded : (Session.loadAll overlapPlace {}).fault? = none :=
    loadAll_fault?_eq_none_iff.mpr ⟨overlapConfiguration, [], steps, hc, hp⟩
  obtain ⟨c, _, _, _, steps', hc', -, -, -, hp', -, honce⟩ := hreload {} (by decide +kernel) hloaded
  cases hc.symm.trans hc'
  cases hp.symm.trans hp'
  exact ⟨hgather overlapConfiguration _ (by decide), found, steps, hfound, hdiscovery.nodup, hread,
    hexcluded, hp, (hstepFiles.mem_iff readFile).mpr ⟨hread, "s", by decide, by decide⟩, honce⟩

/-- A file whose name is nothing but the ending is found, but is no file of steps. -/
def endingPlace : Workplace where
  disk := Disk.write (Disk.write {} ["pyproject.toml"] "".toUTF8) ["features", ".py"] "".toUTF8
  current := ⟨"/", []⟩

theorem findSteps_endingPlace :
    let p : Path := ⟨"/", ["features", ".py"]⟩
    let c : Configuration := { path? := some ⟨"/", ["pyproject.toml"]⟩ }
    Configuration.require endingPlace none none = .ok (c, []) ∧
      c.filesOf endingPlace c.settings.stepFiles = .ok [p] ∧ ".py".toList <:+ p.name.toList ∧
      c.findSteps endingPlace = .ok [] := by
  intro p c
  have hselected : (select endingPlace.disk (c.root endingPlace)
      [.name "features", .anyDepth, .matching "*.py"]).eraseDups = [p] := by decide +kernel
  have hglobs : c.Globs endingPlace c.settings.stepFiles [[p]] := by
    refine .cons ?_ .nil
    rw [← hselected]
    exact glob_of_components (by decide +kernel) (by decide +kernel)
  have hgather : c.gather endingPlace [[p]] = [p] := by
    have hadds : c.addFiles endingPlace [] [p] = [p] := by decide +kernel
    rwa [Configuration.gather, List.foldl_cons, sortedPaths, List.mergeSort_singleton]
  have hfound : c.filesOf endingPlace c.settings.stepFiles = .ok [p] :=
    (Configuration.filesOf_eq_ok_iff endingPlace c).mpr ⟨[[p]], hglobs, hgather.symm⟩
  refine ⟨by decide +kernel, hfound, List.suffix_rfl, ?_⟩
  rw [Configuration.findSteps, hfound]
  decide +kernel

end Session
end ScenarioCheck
