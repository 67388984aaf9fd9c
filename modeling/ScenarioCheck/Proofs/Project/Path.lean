import Mathlib.Data.List.TakeWhile
import ScenarioCheck.Project.Disk
import ScenarioCheck.Proofs.Text.Lines

/-! Resolved paths. Without links, a file that a path leads to has the names that remain once double
dots are applied, so the resolved path leads to it too. Files with proper names are told apart by how
their resolved paths are written. -/
namespace ScenarioCheck

namespace Path

structure IsResolved (p : Path) : Prop where
  root : p.root = "/"
  noDots : ".." ∉ p.parts

theorem climb_of_noDots {above names : List String} (h : ".." ∉ names) :
    climb above names = above.reverse ++ names := by
  induction names generalizing above with
  | nil => simp [climb]
  | cons name rest ih =>
    rw [List.mem_cons, not_or] at h
    rw [climb.eq_3 _ _ _ (Ne.symm h.1), ih h.2]
    simp

theorem noDots_climb {above : List String} (h : ".." ∉ above) (names : List String) :
    ".." ∉ climb above names := by
  fun_induction climb above names with
  | case1 above => simpa using h
  | case2 above rest ih => exact ih fun hmem => h (List.mem_of_mem_drop hmem)
  | case3 above name rest hname ih =>
    refine ih fun hmem => ?_
    rcases List.mem_cons.mp hmem with heq | hmem
    · exact hname heq.symm
    · exact h hmem

theorem isResolved_resolve (current p : Path) : (resolve current p).IsResolved :=
  ⟨rfl, noDots_climb List.not_mem_nil _⟩

theorem IsResolved.isAbsolute {p : Path} (h : p.IsResolved) : p.isAbsolute = true := by
  rw [Path.isAbsolute, h.root]
  rfl

@[simp] theorem join_of_isAbsolute {p : Path} (h : p.isAbsolute = true) (current : Path) :
    current.join p = p := by
  rw [join, if_pos h]

@[simp] theorem IsResolved.resolve_eq {p : Path} (h : p.IsResolved) (current : Path) :
    resolve current p = p := by
  rw [resolve, join_of_isAbsolute h.isAbsolute, climb_of_noDots h.noDots, ← h.root]
  rfl

/-! Reading a path back from its text. -/

structure IsName (name : String) : Prop where
  nonempty : name ≠ ""
  noDot : name ≠ "."
  noSlash : '/' ∉ name.toList

instance : DecidablePred IsName := fun name =>
  decidable_of_iff (name ≠ "" ∧ name ≠ "." ∧ '/' ∉ name.toList)
    ⟨fun h => ⟨h.1, h.2.1, h.2.2⟩, fun h => ⟨h.nonempty, h.noDot, h.noSlash⟩⟩

theorem shown_of_root {p : Path} (h : p.root = "/") : p.shown = "/" ++ "/".intercalate p.parts := by
  unfold shown
  rw [h]
  split
  · rename_i hempty
    simp at hempty
  · rfl

theorem splitOn_intercalate {names : List String} (h : ∀ name ∈ names, IsName name)
    (hne : names ≠ []) :
    Text.splitOn '/' ("/".intercalate names).toList = names.map String.toList := by
  rw [Text.splitOn_eq, String.toList_intercalate]
  refine List.splitOn_intercalate '/' ?_ (by simpa using hne)
  simpa using fun name hname => (h name hname).noSlash

theorem namesOf_intercalate {names : List String} (h : ∀ name ∈ names, IsName name) :
    namesOf ('/' :: ("/".intercalate names).toList) = names := by
  by_cases hne : names = []
  · subst hne
    rfl
  · rw [namesOf, Text.splitOn, if_pos rfl, splitOn_intercalate h hne, List.map_cons,
      List.filter_cons_of_neg (by simp)]
    simp only [List.map_map, Function.comp_def, String.ofList_toList, List.map_id']
    exact List.filter_eq_self.mpr fun name hname => by
      simp [(h name hname).nonempty, (h name hname).noDot]

theorem head?_intercalate {names : List String} (h : ∀ name ∈ names, IsName name) :
    ("/".intercalate names).toList.head? ≠ some '/' := by
  intro hhead
  obtain ⟨rest, hrest⟩ := List.head?_eq_some_iff.mp hhead
  have hne : names ≠ [] := by
    rintro rfl
    simp at hrest
  -- cut at its first slash the text has an empty piece in front, which is no name
  have hsplit := splitOn_intercalate h hne
  rw [hrest, Text.splitOn, if_pos rfl] at hsplit
  obtain ⟨name, hname, hempty⟩ := List.mem_map.mp (hsplit ▸ .head _ : [] ∈ names.map String.toList)
  exact (h name hname).nonempty (String.toList_eq_nil_iff.mp hempty)

theorem rootOf_cons {text : List Char} (h : text.head? ≠ some '/') : rootOf ('/' :: text) = "/" := by
  cases text with
  | nil => rfl
  | cons c rest =>
    have hc : c ≠ '/' := by simpa using h
    unfold rootOf
    split
    · rfl
    · rename_i heq
      simp [hc] at heq
    · rfl
    · rename_i hslash
      exact absurd rfl (hslash _)

theorem ofText_shown {p : Path} (hroot : p.root = "/") (h : ∀ name ∈ p.parts, IsName name) :
    ofText p.shown = p := by
  have hlist : p.shown.toList = '/' :: ("/".intercalate p.parts).toList := by
    rw [shown_of_root hroot, String.toList_append]
    rfl
  rw [ofText, hlist, rootOf_cons (head?_intercalate h), namesOf_intercalate h, ← hroot]

/-! Endings. -/

theorem takeWhile_behind_dot {stem ending : List Char} (h : '.' ∉ ending) :
    ((stem ++ '.' :: ending).reverse.takeWhile (· ≠ '.')).reverse = ending := by
  have hending : ∀ c ∈ ending.reverse, decide (c ≠ '.') = true := by
    intro c hc
    have hne : c ≠ '.' := fun heq => h (heq ▸ List.mem_reverse.mp hc)
    simpa using hne
  rw [List.reverse_append, List.reverse_cons, List.append_assoc,
    List.takeWhile_append_of_pos hending]
  simp

theorem cutSuffix_of_dot {name : String} {stem ending : List Char} (hdot : '.' ∉ ending)
    (h : name.toList = stem ++ '.' :: ending) :
    cutSuffix name = if ending = [] ∨ stem = [] then (name, "")
      else (String.ofList stem, String.ofList ('.' :: ending)) := by
  have hstem : (stem ++ '.' :: ending).take ((stem ++ '.' :: ending).length - ending.length - 1) =
      stem := by
    have hlength : (stem ++ '.' :: ending).length - ending.length - 1 = stem.length := by
      simp
      omega
    rw [hlength, List.take_left']
    rfl
  have hlong : ending.length ≠ (stem ++ '.' :: ending).length := by
    simp
    omega
  simp only [cutSuffix, h, takeWhile_behind_dot hdot, hstem, hlong, false_or, List.isEmpty_iff]

theorem cutSuffix_of_no_dot {name : String} (h : '.' ∉ name.toList) : cutSuffix name = (name, "") := by
  have hall : name.toList.reverse.takeWhile (· ≠ '.') = name.toList.reverse := by
    rw [List.takeWhile_eq_self_iff]
    intro c hc
    have hne : c ≠ '.' := fun heq => h (heq ▸ List.mem_reverse.mp hc)
    simpa using hne
  simp only [cutSuffix, hall, List.reverse_reverse, true_or, if_true]

theorem cutSuffix_snd_eq_iff {name : String} {ending : List Char} (hne : ending ≠ [])
    (hdot : '.' ∉ ending) : (cutSuffix name).2 = String.ofList ('.' :: ending) ↔
      ∃ stem, stem ≠ [] ∧ name.toList = stem ++ '.' :: ending := by
  constructor
  · intro h
    by_cases hmem : '.' ∈ name.toList
    · -- the last dot of the name is the first one from behind
      obtain ⟨after, before, heq, hafter⟩ := List.eq_append_cons_of_mem (List.mem_reverse.mpr hmem)
      have hname : name.toList = before.reverse ++ '.' :: after.reverse := by
        have hreverse := congrArg List.reverse heq
        simpa using hreverse
      rw [cutSuffix_of_dot (by simpa using hafter) hname] at h
      split at h
      · simp at h
      · rename_i hsome
        have hending : after.reverse = ending := (List.cons.inj (String.ofList_injective h)).2
        exact ⟨before.reverse, fun hnil => hsome (.inr hnil), hending ▸ hname⟩
    · rw [cutSuffix_of_no_dot hmem] at h
      simp at h
  · rintro ⟨stem, hstem, hname⟩
    rw [cutSuffix_of_dot hdot hname, if_neg (by simp [hne, hstem])]

end Path

namespace Project.Disk

variable {d : Disk}

@[simp] theorem follow_append (at_ : Names) (names more : List String) :
    d.follow at_ (names ++ more) = d.follow at_ names >>= fun reached => d.follow reached more := by
  induction names generalizing at_ with
  | nil => rfl
  | cons name rest ih =>
    rw [List.cons_append, follow, follow]
    split
    · exact ih _
    · split <;> rfl

structure Straight (d : Disk) (names : Names) : Prop where
  noDots : ".." ∉ names
  follow_eq : d.follow [] names = .ok names

theorem Straight.nil : d.Straight [] := ⟨List.not_mem_nil, rfl⟩

theorem follow_single {at_ : Names} {name : String} (hname : name ≠ "..")
    (hdirectory : d.isDirectoryAt at_ = true) : d.follow at_ [name] = .ok (at_ ++ [name]) := by
  rw [follow, if_pos hdirectory, if_neg (by simpa using hname)]
  rfl

theorem Straight.concat {at_ : Names} {name : String} (h : d.Straight at_) (hname : name ≠ "..")
    (hdirectory : d.isDirectoryAt at_ = true) : d.Straight (at_ ++ [name]) := by
  refine ⟨?_, ?_⟩
  · simpa [h.noDots] using Ne.symm hname
  · rw [follow_append, h.follow_eq]
    exact follow_single hname hdirectory

theorem Straight.dropLast {at_ : Names} (h : d.Straight at_) : d.Straight at_.dropLast := by
  rcases List.eq_nil_or_concat at_ with rfl | ⟨init, last, rfl⟩
  · exact h
  · rw [List.concat_eq_append] at h ⊢
    obtain ⟨hnodots, hfollow⟩ := h
    rw [List.mem_append, not_or, List.mem_singleton] at hnodots
    rw [List.dropLast_concat]
    refine ⟨hnodots.1, ?_⟩
    rw [follow_append] at hfollow
    cases hinit : d.follow [] init with
    | error fault =>
      rw [hinit] at hfollow
      cases hfollow
    | ok reached =>
      -- the last step adds one name, so the names before it are those that were reached
      rw [hinit] at hfollow
      change d.follow reached [last] = .ok (init ++ [last]) at hfollow
      by_cases hdirectory : d.isDirectoryAt reached = true
      · rw [follow_single (Ne.symm hnodots.2) hdirectory] at hfollow
        rw [List.append_cancel_right (Except.ok.inj hfollow)]
      · rw [follow, if_neg hdirectory] at hfollow
        split at hfollow <;> cases hfollow

theorem straight_of_follow {at_ names reached : Names} (h : d.Straight at_)
    (hfollow : d.follow at_ names = .ok reached) :
    d.Straight reached ∧ reached = Path.climb at_.reverse names := by
  induction names generalizing at_ with
  | nil =>
    cases hfollow
    exact ⟨h, by simp [Path.climb]⟩
  | cons name rest ih =>
    rw [follow] at hfollow
    split at hfollow
    · rename_i hdirectory
      by_cases hname : name = ".."
      · subst hname
        obtain ⟨hreached, heq⟩ := ih h.dropLast hfollow
        exact ⟨hreached, by rw [heq, Path.climb, List.drop_one, List.tail_reverse]⟩
      · rw [if_neg (by simpa using hname)] at hfollow
        obtain ⟨hreached, heq⟩ := ih (h.concat hname hdirectory) hfollow
        refine ⟨hreached, ?_⟩
        rw [heq, Path.climb.eq_3 _ _ _ hname, List.reverse_append]
        rfl
    · split at hfollow <;> cases hfollow

theorem place_resolve {q : Path} (hq : q.isAbsolute = true) (current : Path) {names : Names}
    (h : d.place q = .ok names) :
    (Path.resolve current q).parts = names ∧ d.place (Path.resolve current q) = .ok names := by
  obtain ⟨hstraight, heq⟩ := straight_of_follow Straight.nil h
  have hparts : (Path.resolve current q).parts = names := by
    rw [heq, Path.resolve, Path.join_of_isAbsolute hq]
    rfl
  refine ⟨hparts, ?_⟩
  rw [place, hparts]
  exact hstraight.follow_eq

theorem isFile_iff {p : Path} : d.isFile p = true ↔
    ∃ names, d.place p = .ok names ∧ (d.contentAt? names).isSome = true := by
  unfold isFile
  cases d.place p <;> simp

theorem isFile_resolve {q : Path} (hq : q.isAbsolute = true) (current : Path)
    (h : d.isFile q = true) : d.isFile (Path.resolve current q) = true := by
  obtain ⟨names, hplace, hcontent⟩ := isFile_iff.mp h
  exact isFile_iff.mpr ⟨names, (place_resolve hq current hplace).2, hcontent⟩

def IsNamed (d : Disk) : Prop := ∀ file ∈ d.files, ∀ name ∈ file.1, Path.IsName name

instance : DecidablePred IsNamed := fun d =>
  inferInstanceAs (Decidable (∀ file ∈ d.files, ∀ name ∈ file.1, Path.IsName name))

theorem IsNamed.ofText_shown (h : d.IsNamed) {p : Path} (hp : p.IsResolved)
    (hfile : d.isFile p = true) : Path.ofText p.shown = p := by
  obtain ⟨names, hplace, hcontent⟩ := isFile_iff.mp hfile
  have hparts : p.parts = names := by
    rw [← (place_resolve hp.isAbsolute p hplace).1, hp.resolve_eq]
  simp only [contentAt?, Option.isSome_map, List.find?_isSome, beq_iff_eq] at hcontent
  obtain ⟨file, hmem, rfl⟩ := hcontent
  exact Path.ofText_shown hp.root (hparts ▸ h file hmem)

end Project.Disk

end ScenarioCheck
