import Mathlib.Data.List.Induction
import Mathlib.Data.List.Nodup
import Mathlib.Data.String.Basic
import ScenarioCheck.Project.Configuration
import ScenarioCheck.Proofs.Project.Path

/-! The files that patterns select. A pattern leads to paths, which are sorted; each of them that is a
file and is not excluded adds what it resolves to, unless a pattern or a path before has added it. -/
namespace ScenarioCheck.Project

/-! The order of paths. -/

@[simp] theorem isUpTo_cons {a b : String} {as bs : List String} :
    isUpTo (a :: as) (b :: bs) = true ↔
    a < b ∨ a = b ∧ isUpTo as bs = true := by
  simp [isUpTo]

@[simp] theorem isUpTo_total (names names' : List String) :
    (isUpTo names names' || isUpTo names' names) = true := by
  induction names generalizing names' with
  | nil => rfl
  | cons a as ih =>
    cases names' with
    | nil => rfl
    | cons b bs =>
      rw [Bool.or_eq_true, isUpTo_cons, isUpTo_cons]
      rcases lt_trichotomy a b with h | rfl | h
      · exact .inl (.inl h)
      · rcases (Bool.or_eq_true _ _).mp (ih bs) with hle | hle
        · exact .inl (.inr ⟨rfl, hle⟩)
        · exact .inr (.inr ⟨rfl, hle⟩)
      · exact .inr (.inl h)

theorem isUpTo_trans (x y z : List String) (h : isUpTo x y = true) (h' : isUpTo y z = true) :
    isUpTo x z = true := by
  induction x generalizing y z with
  | nil => rfl
  | cons a as ih =>
    cases y with
    | nil => cases h
    | cons b bs =>
      cases z with
      | nil => cases h'
      | cons c cs =>
        rw [isUpTo_cons] at h h' ⊢
        rcases h with h | ⟨rfl, h⟩ <;> rcases h' with h' | ⟨rfl, h'⟩
        · exact .inl (h.trans h')
        · exact .inl h
        · exact .inl h'
        · exact .inr ⟨rfl, ih bs cs h h'⟩

def InOrder (paths : List Path) : Prop := paths.Pairwise fun p q => isUpTo p.parts q.parts = true

theorem inOrder_sortedPaths (paths : List Path) : InOrder (sortedPaths paths) :=
  List.pairwise_mergeSort (fun p q r => isUpTo_trans p.parts q.parts r.parts)
    (fun p q => isUpTo_total p.parts q.parts) paths

@[simp] theorem mem_sortedPaths {p : Path} {paths : List Path} :
    p ∈ sortedPaths paths ↔ p ∈ paths :=
  List.mem_mergeSort

theorem sortedPaths_eq_self {paths : List Path} (h : InOrder paths) : sortedPaths paths = paths :=
  List.mergeSort_of_pairwise h

/-! What a pattern leads to. -/

theorem root_of_mem_select {d : Disk} {cs : List Component} {p q : Path} (h : q ∈ select d p cs) :
    q.root = p.root := by
  induction cs generalizing p with
  | nil => rw [List.mem_singleton.mp h]
  | cons c rest ih =>
    unfold select at h
    cases c with
    | anyDepth =>
      dsimp only at h
      split at h
      · cases h
      · obtain ⟨r, hr, hq⟩ := List.mem_flatMap.mp h
        rw [ih hq]
        rcases List.mem_cons.mp hr with rfl | hr
        · rfl
        · obtain ⟨way, -, rfl⟩ := List.mem_map.mp hr
          rfl
    | up => exact (ih h).trans rfl
    | name text => exact (ih (List.mem_ite_nil_right.mp h).2).trans rfl
    | matching pattern =>
      dsimp only at h
      split at h
      · cases h
      · obtain ⟨entry, -, hq⟩ := List.mem_flatMap.mp h
        exact (ih (List.mem_ite_nil_right.mp hq).2).trans rfl
    | directory => rw [List.mem_singleton.mp h]

theorem root_of_mem_selectBelow {d : Disk} {root : Path} {cs : List Component} {q : Path}
    (h : q ∈ selectBelow d root cs) : q.root = root.root := by
  unfold selectBelow at h
  split at h
  · exact root_of_mem_select (List.mem_eraseDups.mp (mem_sortedPaths.mp h))
  · cases h

theorem inOrder_selectBelow (d : Disk) (root : Path) (cs : List Component) :
    InOrder (selectBelow d root cs) := by
  unfold selectBelow
  split
  · exact inOrder_sortedPaths _
  · exact .nil

theorem glob_eq_ok {d : Disk} {root : Path} {pattern : String} {paths : List Path}
    (h : glob d root pattern = .ok paths) : ∃ cs, paths = selectBelow d root cs := by
  unfold glob at h
  cases hc : components pattern with
  | error fault =>
    rw [hc] at h
    cases h
  | ok cs =>
    rw [hc] at h
    exact ⟨cs, (Except.ok.inj h).symm⟩

theorem glob_of_components {d : Disk} {root : Path} {pattern : String} {cs : List Component}
    (h : components pattern = .ok cs) (hroot : d.isDirectory root = true) :
    glob d root pattern = .ok (sortedPaths (select d root cs).eraseDups) := by
  rw [glob, h, Except.map, selectBelow, if_pos hroot]

namespace Configuration

variable (w : Workplace) (c : Configuration)

structure Gives (q p : Path) : Prop where
  isFile : w.disk.isFile q = true
  isIncluded : c.isExcluded w q = false
  resolves : Path.resolve w.current q = p

def Offers (yielded : List Path) (p : Path) : Prop := ∃ q ∈ yielded, c.Gives w q p

/-- A pattern leads to one file before it leads to another. -/
def Leads (yielded : List Path) (p p' : Path) : Prop :=
  ∀ q' ∈ yielded, c.Gives w q' p' → ∃ q ∈ yielded, c.Gives w q p ∧ isUpTo q.parts q'.parts = true

/-- The first pattern that offers one file stands before those that offer another, or leads to the one
before the other. -/
def Precedes (yields : List (List Path)) (p p' : Path) : Prop :=
  ∃ earlier yielded later, yields = earlier ++ yielded :: later ∧ c.Offers w yielded p ∧
    (∀ other ∈ earlier, ¬c.Offers w other p ∧ ¬c.Offers w other p') ∧ c.Leads w yielded p p'

/-- Files are those that patterns offer, each once, in the order of the first pattern that offers
them, and in the order of paths where this is the same pattern. -/
structure Selection (yields : List (List Path)) (found : List Path) : Prop where
  nodup : found.Nodup
  mem_iff : ∀ p, p ∈ found ↔ ∃ yielded ∈ yields, c.Offers w yielded p
  ordered : found.Pairwise (c.Precedes w yields)

variable {w c}

@[simp] theorem offers_concat {yielded : List Path} {q p : Path} :
    c.Offers w (yielded ++ [q]) p ↔ c.Offers w yielded p ∨ c.Gives w q p := by
  simp only [Offers, List.mem_append, List.mem_singleton, or_and_right, exists_or, exists_eq_left]

@[simp] theorem offers_sortedPaths {yielded : List Path} {p : Path} :
    c.Offers w (sortedPaths yielded) p ↔ c.Offers w yielded p := by
  simp only [Offers, mem_sortedPaths]

@[simp] theorem leads_sortedPaths {yielded : List Path} {p p' : Path} :
    c.Leads w (sortedPaths yielded) p p' ↔ c.Leads w yielded p p' := by
  simp only [Leads, mem_sortedPaths]

/-! One pattern. -/

variable (w c) in
/-- What a pattern adds to the files that are there. -/
structure Adds (met yielded block : List Path) : Prop where
  nodup : block.Nodup
  mem_iff : ∀ p, p ∈ block ↔ c.Offers w yielded p ∧ p ∉ met
  ordered : block.Pairwise (c.Leads w yielded)

theorem addFiles_concat (met yielded : List Path) (q : Path) :
    let p := Path.resolve w.current q
    let before := c.addFiles w met yielded
    (c.Gives w q p ∧ p ∉ before ∧ c.addFiles w met (yielded ++ [q]) = before ++ [p]) ∨
      ((c.Gives w q p → p ∈ before) ∧ c.addFiles w met (yielded ++ [q]) = before) := by
  intro p before
  have hstep : c.addFiles w met (yielded ++ [q]) =
      if !w.disk.isFile q || before.contains p || c.isExcluded w q then before else before ++ [p] :=
    List.foldl_append
  rw [hstep]
  split
  · rename_i h
    refine .inr ⟨fun hgives => ?_, rfl⟩
    simpa [hgives.isFile, hgives.isIncluded] using h
  · rename_i h
    simp only [Bool.or_eq_true, Bool.not_eq_true', not_or, Bool.not_eq_false, Bool.not_eq_true,
      List.contains_iff_mem] at h
    obtain ⟨⟨hfile, hnew⟩, hincluded⟩ := h
    exact .inl ⟨⟨hfile, hincluded, rfl⟩, by simpa using hnew, rfl⟩

theorem Leads.concat {yielded : List Path} {q p p' : Path} (h : c.Leads w yielded p p')
    (hlast : ∀ r ∈ yielded, isUpTo r.parts q.parts = true) (hoffers : c.Offers w yielded p) :
    c.Leads w (yielded ++ [q]) p p' := by
  intro q' hq' hgives'
  rcases List.mem_append.mp hq' with hq' | hq'
  · obtain ⟨r, hr, hgives, hle⟩ := h q' hq' hgives'
    exact ⟨r, List.mem_append_left _ hr, hgives, hle⟩
  · obtain ⟨r, hr, hgives⟩ := hoffers
    exact ⟨r, List.mem_append_left _ hr, hgives, List.mem_singleton.mp hq' ▸ hlast r hr⟩

section Adds

variable {met yielded block : List Path} {q : Path} (h : c.Adds w met yielded block)
  (hlast : ∀ r ∈ yielded, isUpTo r.parts q.parts = true)
include h hlast

theorem Adds.leads : block.Pairwise (c.Leads w (yielded ++ [q])) :=
  h.ordered.imp_of_mem fun hp _ hold => hold.concat hlast ((h.mem_iff _).mp hp).1

theorem Adds.keep (hold : ∀ p, c.Gives w q p → p ∈ met ++ block) :
    c.Adds w met (yielded ++ [q]) block := by
  refine ⟨h.nodup, fun p => ?_, h.leads hlast⟩
  rw [h.mem_iff, offers_concat, or_and_right, iff_self_or]
  rintro ⟨hgives, hmet⟩
  exact (h.mem_iff p).mp ((List.mem_append.mp (hold p hgives)).resolve_left hmet)

theorem Adds.add {p : Path} (hgives : c.Gives w q p) (hmet : p ∉ met) (hblock : p ∉ block) :
    c.Adds w met (yielded ++ [q]) (block ++ [p]) := by
  have hnew : ¬c.Offers w yielded p := fun hoffers => hblock ((h.mem_iff p).mpr ⟨hoffers, hmet⟩)
  have honly {p' : Path} : c.Gives w q p' ↔ p' = p :=
    ⟨fun hgives' => hgives'.resolves.symm.trans hgives.resolves, fun heq => heq ▸ hgives⟩
  refine ⟨List.concat_eq_append ▸ h.nodup.concat hblock, fun p' => ?_, ?_⟩
  · rw [List.mem_append, h.mem_iff, offers_concat, or_and_right, honly, List.mem_singleton]
    exact or_congr_right ⟨fun heq => ⟨heq, heq ▸ hmet⟩, And.left⟩
  · refine List.pairwise_append.mpr ⟨h.leads hlast, List.pairwise_singleton _ _, ?_⟩
    -- only the last path gives the new file, and it comes behind all others
    intro p' hp' p'' hp'' q' hq' hgives'
    obtain rfl := List.mem_singleton.mp hp''
    rcases List.mem_append.mp hq' with hq' | hq'
    · exact absurd ⟨q', hq', hgives'⟩ hnew
    · obtain ⟨r, hr, hgivesr⟩ := ((h.mem_iff p').mp hp').1
      exact ⟨r, List.mem_append_left _ hr, hgivesr, List.mem_singleton.mp hq' ▸ hlast r hr⟩

end Adds

theorem addFiles_spec (met : List Path) {yielded : List Path} (hsorted : InOrder yielded) :
    ∃ block, c.addFiles w met yielded = met ++ block ∧ c.Adds w met yielded block := by
  induction yielded using List.reverseRecOn with
  | nil => exact ⟨[], by simp [addFiles], List.nodup_nil, by simp [Offers], .nil⟩
  | append_singleton yielded q ih =>
    obtain ⟨hbefore, -, hlast⟩ := List.pairwise_append.mp hsorted
    have hlast : ∀ r ∈ yielded, isUpTo r.parts q.parts = true := fun r hr => hlast r hr q (.head _)
    obtain ⟨block, hmet, hblock⟩ := ih hbefore
    rcases addFiles_concat (c := c) met yielded q with ⟨hgives, hnew, hadded⟩ | ⟨hold, hkept⟩
    · rw [hmet, List.mem_append, not_or] at hnew
      exact ⟨block ++ [Path.resolve w.current q], by rw [hadded, hmet, List.append_assoc],
        hblock.add hlast hgives hnew.1 hnew.2⟩
    · refine ⟨block, hkept.trans hmet, hblock.keep hlast fun p hgives => ?_⟩
      have hresolves := hgives.resolves
      subst hresolves
      exact hmet ▸ hold hgives

/-! Several patterns. -/

variable (w c) in
/-- The files that patterns add one after the other, each the paths that it leads to in order. -/
def gather (yields : List (List Path)) : List Path :=
  yields.foldl (fun met yielded => c.addFiles w met (sortedPaths yielded)) []

theorem exists_first {yields : List (List Path)} {p : Path}
    (h : ∃ yielded ∈ yields, c.Offers w yielded p) :
    ∃ earlier yielded later, yields = earlier ++ yielded :: later ∧ c.Offers w yielded p ∧
      ∀ other ∈ earlier, ¬c.Offers w other p := by
  classical
  have hfind : (yields.find? (c.Offers w · p)).isSome := by
    simpa [List.find?_isSome] using h
  obtain ⟨yielded, hyielded⟩ := Option.isSome_iff_exists.mp hfind
  obtain ⟨hoffers, earlier, later, hyields, hearlier⟩ := List.find?_eq_some_iff_append.mp hyielded
  exact ⟨earlier, yielded, later, hyields, by simpa using hoffers, by simpa using hearlier⟩

theorem Precedes.concat {yields : List (List Path)} (yielded : List Path) {p p' : Path}
    (h : c.Precedes w yields p p') : c.Precedes w (yields ++ [yielded]) p p' := by
  obtain ⟨earlier, first, later, rfl, hrest⟩ := h
  exact ⟨earlier, first, later ++ [yielded], by simp, hrest⟩

theorem selection_gather (yields : List (List Path)) : c.Selection w yields (c.gather w yields) := by
  induction yields using List.reverseRecOn with
  | nil => exact ⟨List.nodup_nil, by simp [gather], .nil⟩
  | append_singleton yields yielded ih =>
    obtain ⟨block, hadds, hblock⟩ :=
      addFiles_spec (c := c) (w := w) (c.gather w yields) (inOrder_sortedPaths yielded)
    have hgather : c.gather w (yields ++ [yielded]) = c.gather w yields ++ block :=
      List.foldl_append.trans hadds
    have hnew {p : Path} (hp : p ∈ block) : c.Offers w yielded p ∧
        ∀ other ∈ yields, ¬c.Offers w other p := by
      obtain ⟨hoffers, hmet⟩ := (hblock.mem_iff p).mp hp
      exact ⟨offers_sortedPaths.mp hoffers, fun other hother h =>
        hmet ((ih.mem_iff p).mpr ⟨other, hother, h⟩)⟩
    rw [hgather]
    refine ⟨?_, fun p => ?_, List.pairwise_append.mpr ⟨?_, ?_, ?_⟩⟩
    · refine List.nodup_append.mpr ⟨ih.nodup, hblock.nodup, fun p hp p' hp' heq => ?_⟩
      exact ((hblock.mem_iff p').mp hp').2 (heq ▸ hp)
    · rw [List.mem_append, hblock.mem_iff, offers_sortedPaths, ih.mem_iff]
      simp only [List.mem_append, List.mem_singleton, or_and_right, exists_or, exists_eq_left]
      rw [or_and_left, and_iff_left (Classical.em _)]
    · exact ih.ordered.imp (Precedes.concat yielded)
    · refine hblock.ordered.imp_of_mem fun hp hp' hleads => ?_
      exact ⟨yields, yielded, [], rfl, (hnew hp).1,
        fun other hother => ⟨(hnew hp).2 other hother, (hnew hp').2 other hother⟩,
        leads_sortedPaths.mp hleads⟩
    · -- the patterns before do not lead to the new file at all
      intro p hp p' hp'
      obtain ⟨earlier, first, later, rfl, hoffers, hearlier⟩ := exists_first ((ih.mem_iff p).mp hp)
      have hnone := (hnew hp').2
      exact ⟨earlier, first, later ++ [yielded], by simp, hoffers,
        fun other hother => ⟨hearlier other hother, hnone other (by simp [hother])⟩,
        fun q' hq' hgives' => absurd ⟨q', hq', hgives'⟩ (hnone first (by simp))⟩

/-! Patterns below the root of a project. -/

section Below

variable (w c)

/-- What patterns lead to below the root, in any order. -/
def Globs (patterns : List String) (yields : List (List Path)) : Prop :=
  List.Forall₂ (fun pattern yielded => glob w.disk (c.root w) pattern = .ok (sortedPaths yielded))
    patterns yields

theorem foldlM_addFiles_eq_ok_iff {patterns : List String} (met : List Path) {found : List Path} :
    patterns.foldlM (fun met pattern => do
        return c.addFiles w met (← glob w.disk (c.root w) pattern)) met = Except.ok found ↔
      ∃ yields, c.Globs w patterns yields ∧
        found = yields.foldl (fun met yielded => c.addFiles w met (sortedPaths yielded)) met := by
  induction patterns generalizing met with
  | nil =>
    constructor
    · intro h
      exact ⟨[], .nil, (Except.ok.inj h).symm⟩
    · rintro ⟨_, ⟨⟩, rfl⟩
      rfl
  | cons pattern rest ih =>
    rw [List.foldlM_cons]
    constructor
    · intro h
      cases hglob : glob w.disk (c.root w) pattern with
      | error fault =>
        rw [hglob] at h
        cases h
      | ok paths =>
        rw [hglob] at h
        obtain ⟨yields, hyields, hfound⟩ := (ih _).mp h
        obtain ⟨cs, rfl⟩ := glob_eq_ok hglob
        have hsorted := sortedPaths_eq_self (inOrder_selectBelow w.disk (c.root w) cs)
        refine ⟨selectBelow w.disk (c.root w) cs :: yields, .cons (hglob.trans ?_) hyields, ?_⟩
        · rw [hsorted]
        · rw [hfound, List.foldl_cons, hsorted]
    · rintro ⟨_, hyields, rfl⟩
      cases hyields with
      | cons hglob hrest =>
        rw [hglob]
        exact (ih _).mpr ⟨_, hrest, rfl⟩

theorem filesOf_eq_ok_iff {patterns : List String} {found : List Path} :
    c.filesOf w patterns = .ok found ↔
      ∃ yields, c.Globs w patterns yields ∧ found = c.gather w yields :=
  foldlM_addFiles_eq_ok_iff w c []

end Below

/-- Files are a selection of regular files, and one below the root is there exactly if a pattern leads
to it and its path from the root is not excluded. -/
structure Discovery (w : Workplace) (c : Configuration) (yields : List (List Path))
    (found : List Path) : Prop extends c.Selection w yields found where
  regular : ∀ p ∈ found, w.disk.isFile p = true
  inside : ∀ p relative, p.relativeTo? (c.root w) = some relative →
    (p ∈ found ↔
      (∃ yielded ∈ yields, ∃ q ∈ yielded, w.disk.isFile q = true ∧ Path.resolve w.current q = p) ∧
        ∀ pattern ∈ c.settings.exclude, Wildcard.isMatch pattern relative.shown = false)

theorem isExcluded_inside {q p relative : Path} (hq : Path.resolve w.current q = p)
    (hp : p.relativeTo? (c.root w) = some relative) : c.isExcluded w q = false ↔
      ∀ pattern ∈ c.settings.exclude, Wildcard.isMatch pattern relative.shown = false := by
  simp [isExcluded, relativeText, hq, hp]

theorem discovery_gather {yields : List (List Path)}
    (habsolute : ∀ yielded ∈ yields, ∀ q ∈ yielded, q.isAbsolute = true) :
    c.Discovery w yields (c.gather w yields) := by
  have hselection := selection_gather (w := w) (c := c) yields
  refine ⟨hselection, fun p hp => ?_, fun p relative hinside => ?_⟩
  · obtain ⟨yielded, hyielded, q, hq, hgives⟩ := (hselection.mem_iff p).mp hp
    exact hgives.resolves ▸ Disk.isFile_resolve (habsolute yielded hyielded q hq) _ hgives.isFile
  · rw [hselection.mem_iff]
    constructor
    · rintro ⟨yielded, hyielded, q, hq, hgives⟩
      exact ⟨⟨yielded, hyielded, q, hq, hgives.isFile, hgives.resolves⟩,
        (isExcluded_inside hgives.resolves hinside).mp hgives.isIncluded⟩
    · rintro ⟨⟨yielded, hyielded, q, hq, hfile, hresolves⟩, hexclude⟩
      exact ⟨yielded, hyielded, q, hq, hfile, (isExcluded_inside hresolves hinside).mpr hexclude,
        hresolves⟩

theorem isAbsolute_of_globs (hcurrent : w.current.isAbsolute = true) {patterns : List String}
    {yields : List (List Path)} (h : c.Globs w patterns yields) :
    ∀ yielded ∈ yields, ∀ q ∈ yielded, q.isAbsolute = true := by
  have hroot : (c.root w).isAbsolute = true := by
    unfold Configuration.root
    split
    · rfl
    · exact hcurrent
  induction h with
  | nil => simp
  | @cons pattern yielded patterns yields hglob _ ih =>
    rw [List.forall_mem_cons]
    refine ⟨fun q hq => ?_, ih⟩
    obtain ⟨cs, hcs⟩ := glob_eq_ok hglob
    have hmem : q ∈ selectBelow w.disk (c.root w) cs := hcs ▸ mem_sortedPaths.mpr hq
    rwa [Path.isAbsolute, root_of_mem_selectBelow hmem]

def EndsInPy (p : Path) : Prop := ∃ stem, stem ≠ "" ∧ p.name = stem ++ ".py"

@[simp] theorem suffix_eq_iff {p : Path} : p.suffix = ".py" ↔ EndsInPy p := by
  have h : (Path.cutSuffix p.name).2 = String.ofList ['.', 'p', 'y'] ↔ _ :=
    Path.cutSuffix_snd_eq_iff (by simp) (by simp)
  rw [Path.suffix, EndsInPy]
  refine h.trans ⟨?_, ?_⟩
  · rintro ⟨stem, hne, hname⟩
    exact ⟨String.ofList stem, by simpa using hne, by rw [← String.toList_inj]; simpa using hname⟩
  · rintro ⟨stem, hne, hname⟩
    exact ⟨stem.toList, by simpa using hne, by rw [hname]; simp⟩

theorem findSteps_eq_ok_iff {steps : List Path} : c.findSteps w = .ok steps ↔
    ∃ yields, c.Globs w c.settings.stepFiles yields ∧
      steps = (c.gather w yields).filter (·.suffix == ".py") := by
  unfold findSteps
  constructor
  · intro h
    cases hfiles : c.filesOf w c.settings.stepFiles with
    | error fault =>
      rw [hfiles] at h
      cases h
    | ok found =>
      rw [hfiles] at h
      obtain ⟨yields, hyields, rfl⟩ := (filesOf_eq_ok_iff w c).mp hfiles
      exact ⟨yields, hyields, (Except.ok.inj h).symm⟩
  · rintro ⟨yields, hyields, rfl⟩
    rw [(filesOf_eq_ok_iff w c).mpr ⟨yields, hyields, rfl⟩]
    rfl

end Configuration
end ScenarioCheck.Project
