import Mathlib.Data.List.Dedup
import Mathlib.Data.List.Induction
import ScenarioCheck.Proofs.Ordered
import ScenarioCheck.Registry.Snapshot

/-! Registries as logs of their writes. What is registered for a file was given by the last
successful write that names it, and files follow one another in the order of these writes. -/
namespace ScenarioCheck

open Step (Definition)

/-- A write to a registry. It lists no file twice. -/
inductive Write where
  | replaceFile (file : String) (definitions : List Definition)
  | replaceFiles (byFile : List (String × List Definition))
      (distinct : (Ordered.keys byFile).Nodup)
  | removeFile (file : String)
  | clear

namespace Write

/-- Every definition is listed under its own file. -/
def Placed (entries : List (String × List Definition)) : Prop :=
  ∀ entry ∈ entries, ∀ d ∈ entry.2, d.location.file = entry.1

def listed : Write → List (String × List Definition)
  | replaceFile file definitions => [(file, definitions)]
  | replaceFiles byFile _ => byFile
  | removeFile file => [(file, [])]
  | clear => []

def files (w : Write) : List String := Ordered.keys w.listed

def WellPlaced (w : Write) : Prop := Placed w.listed

instance (w : Write) : Decidable w.WellPlaced :=
  inferInstanceAs (Decidable (∀ entry ∈ w.listed, ∀ d ∈ entry.2, d.location.file = entry.1))

def isClear : Write → Bool
  | clear => true
  | _ => false

def run (w : Write) (s : Snapshot) : Except Snapshot.Misplaced Snapshot :=
  match w with
  | replaceFile file definitions => s.replaceFile file definitions
  | replaceFiles byFile _ => s.replaceFiles byFile
  | removeFile file => .ok (s.removeFile file)
  | clear => .ok s.clear

/-- The definitions after a write that succeeds: other files keep their place, and the listed ones
follow. -/
def result (w : Write) (definitions : List Definition) : List Definition :=
  if w.isClear then []
  else (definitions.filter fun d => d.location.file ∉ w.files) ++ w.listed.flatMap (·.2)

theorem nodup_files (w : Write) : w.files.Nodup := by
  cases w with
  | replaceFiles byFile distinct => exact distinct
  | _ => simp [files, listed]

theorem mem_files {w : Write} {file : String} :
    file ∈ w.files ↔ ∃ definitions, (file, definitions) ∈ w.listed := by
  simp [files, Ordered.keys]

theorem eq_clear {w : Write} (h : w.isClear = true) : w = .clear := by
  cases w with
  | clear => rfl
  | _ => cases h

theorem isClear_eq_false {w : Write} (h : w ≠ .clear) : w.isClear = false := by
  cases w with
  | clear => exact absurd rfl h
  | _ => rfl

theorem wellPlaced_clear : clear.WellPlaced := by
  simp [WellPlaced, Placed, listed]

theorem isClear_of_mem_files {w : Write} {file : String} (h : file ∈ w.files) :
    w.isClear = false := by
  cases w with
  | clear => simp [files, listed] at h
  | _ => rfl

/-! Success and failure. -/

@[simp] theorem misplaced?_eq_none_iff {byFile : List (String × List Definition)} :
    Snapshot.misplaced? byFile = none ↔ Placed byFile := by
  simp [Snapshot.misplaced?, Placed]

@[simp] theorem replaceFiles_of_placed {byFile : List (String × List Definition)}
    (h : Placed byFile) (s : Snapshot) :
    s.replaceFiles byFile = .ok (s.publish
      ((s.definitions.filter fun d => d.location.file ∉ Ordered.keys byFile) ++
        byFile.flatMap (·.2))) := by
  unfold Snapshot.replaceFiles
  rw [misplaced?_eq_none_iff.mpr h]

theorem replaceFiles_of_not_placed {byFile : List (String × List Definition)}
    (h : ¬Placed byFile) (s : Snapshot) : ∃ fault, s.replaceFiles byFile = .error fault := by
  rw [← misplaced?_eq_none_iff] at h
  obtain ⟨fault, hf⟩ := Option.ne_none_iff_exists'.mp h
  exact ⟨fault, by simp [Snapshot.replaceFiles, hf]⟩

theorem run_of_wellPlaced {w : Write} (h : w.WellPlaced) (s : Snapshot) :
    w.run s = .ok (s.publish (w.result s.definitions)) := by
  cases w with
  | replaceFile file definitions => exact replaceFiles_of_placed h s
  | replaceFiles byFile distinct => exact replaceFiles_of_placed h s
  | removeFile file =>
    exact (Snapshot.replaceFile_nil s file).symm.trans (replaceFiles_of_placed h s)
  | clear => rfl

@[simp] theorem run_eq_error_iff {w : Write} {s : Snapshot} :
    (∃ fault, w.run s = .error fault) ↔ ¬w.WellPlaced := by
  constructor
  · rintro ⟨fault, hf⟩ h
    rw [run_of_wellPlaced h] at hf
    cases hf
  · intro h
    cases w with
    | replaceFile file definitions => exact replaceFiles_of_not_placed h s
    | replaceFiles byFile distinct => exact replaceFiles_of_not_placed h s
    | removeFile file => exact absurd (by simp [WellPlaced, Placed, listed]) h
    | clear => exact absurd wellPlaced_clear h

end Write

/-! The definitions of one file among those that are listed. -/

section Listed

variable {entries : List (String × List Definition)} (hp : Write.Placed entries) {file : String}
include hp

theorem Write.filter_listed_eq_nil (hne : ∀ e ∈ entries, e.1 ≠ file) :
    ((entries.flatMap (·.2)).filter fun d => d.location.file = file) = [] := by
  rw [List.filter_eq_nil_iff]
  intro d hd
  obtain ⟨e, he, hde⟩ := List.mem_flatMap.mp hd
  rw [decide_eq_true_eq, hp e he d hde]
  exact hne e he

theorem Write.filter_listed (hn : (Ordered.keys entries).Nodup) {definitions : List Definition}
    (hm : (file, definitions) ∈ entries) :
    ((entries.flatMap (·.2)).filter fun d => d.location.file = file) = definitions := by
  have hown : (definitions.filter fun d => d.location.file = file) = definitions := by
    rw [List.filter_eq_self]
    intro d hd
    simpa using hp _ hm d hd
  have hother : ∀ e ∈ entries, e.1 ≠ file → (e.2.filter fun d => d.location.file = file) = [] := by
    intro e he hne
    rw [List.filter_eq_nil_iff]
    intro d hd
    simpa [hp e he d hd] using hne
  exact (Ordered.filter_flatMap_of_mem hn hm hother).trans hown

end Listed

namespace Snapshot

def ofFile (s : Snapshot) (file : String) : List Definition :=
  s.definitions.filter fun d => d.location.file = file

/-- The registry after a write. One that fails leaves it as it was. -/
def after (s : Snapshot) (w : Write) : Snapshot :=
  match w.run s with
  | .ok s' => s'
  | .error _ => s

def afterAll (s : Snapshot) (ws : List Write) : Snapshot := ws.foldl after s

theorem after_of_wellPlaced (s : Snapshot) {w : Write} (h : w.WellPlaced) :
    s.after w = s.publish (w.result s.definitions) := by
  unfold after
  rw [Write.run_of_wellPlaced h]

@[simp] theorem after_of_not_wellPlaced (s : Snapshot) {w : Write} (h : ¬w.WellPlaced) :
    s.after w = s := by
  obtain ⟨fault, hf⟩ := Write.run_eq_error_iff.mpr h
  unfold after
  rw [hf]

@[simp] theorem afterAll_cons (s : Snapshot) (w : Write) (ws : List Write) :
    s.afterAll (w :: ws) = (s.after w).afterAll ws := rfl

@[simp] theorem afterAll_append (s : Snapshot) (ws xs : List Write) :
    s.afterAll (ws ++ xs) = (s.afterAll ws).afterAll xs := List.foldl_append

/-! What writes do to the definitions of one file. -/

section File

variable (s : Snapshot) {w : Write} {file : String}

@[simp] theorem ofFile_after_clear : (s.after .clear).ofFile file = [] := rfl

theorem ofFile_after_of_mem (h : w.WellPlaced) {definitions : List Definition}
    (hm : (file, definitions) ∈ w.listed) : (s.after w).ofFile file = definitions := by
  have hfile : file ∈ w.files := Write.mem_files.mpr ⟨_, hm⟩
  have hkept : ((s.definitions.filter fun d => d.location.file ∉ w.files).filter
      fun d => d.location.file = file) = [] := by
    rw [List.filter_filter, List.filter_eq_nil_iff]
    intro d _ hd
    simp only [Bool.and_eq_true, decide_eq_true_eq] at hd
    exact hd.2 (hd.1 ▸ hfile)
  rw [after_of_wellPlaced s h, ofFile, publish, Write.result,
    if_neg (by simp [Write.isClear_of_mem_files hfile]), List.filter_append, hkept,
    Write.filter_listed h w.nodup_files hm, List.nil_append]

@[simp] theorem ofFile_after_of_not_mem (hc : w.isClear = false) (hm : file ∉ w.files) :
    (s.after w).ofFile file = s.ofFile file := by
  by_cases h : w.WellPlaced
  · have hkept : ((s.definitions.filter fun d => d.location.file ∉ w.files).filter
        fun d => d.location.file = file) = s.ofFile file := by
      rw [List.filter_filter, ofFile]
      apply List.filter_congr
      intro d _
      by_cases hd : d.location.file = file
      · simp [hd, hm]
      · simp [hd]
    have hlisted : ((w.listed.flatMap (·.2)).filter fun d => d.location.file = file) = [] := by
      apply Write.filter_listed_eq_nil h
      rintro e he rfl
      exact hm (Write.mem_files.mpr ⟨e.2, he⟩)
    rw [after_of_wellPlaced s h, ofFile, publish, Write.result, if_neg (by simp [hc]),
      List.filter_append, hkept, hlisted, List.append_nil]
  · rw [after_of_not_wellPlaced s h]

theorem ofFile_afterAll_of_not_mem {ws : List Write}
    (h : ∀ w ∈ ws, w.WellPlaced → w.isClear = false ∧ file ∉ w.files) :
    (s.afterAll ws).ofFile file = s.ofFile file := by
  induction ws generalizing s with
  | nil => rfl
  | cons w rest ih =>
    rw [afterAll_cons, ih _ fun x hx => h x (by simp [hx])]
    by_cases hw : w.WellPlaced
    · obtain ⟨hc, hm⟩ := h w (by simp) hw
      exact ofFile_after_of_not_mem s hc hm
    · rw [after_of_not_wellPlaced s hw]

theorem ofFile_afterAll_eq_nil {ws : List Write} (hs : s.ofFile file = [])
    (h : ∀ w ∈ ws, w.WellPlaced → file ∉ w.files) : (s.afterAll ws).ofFile file = [] := by
  induction ws generalizing s with
  | nil => exact hs
  | cons w rest ih =>
    rw [afterAll_cons]
    apply ih _ _ fun x hx => h x (by simp [hx])
    by_cases hw : w.WellPlaced
    · cases hc : w.isClear with
      | true => exact Write.eq_clear hc ▸ ofFile_after_clear s
      | false => exact (ofFile_after_of_not_mem s hc (h w (by simp) hw)).trans hs
    · rw [after_of_not_wellPlaced s hw]
      exact hs

end File

/-! The order of the files. -/

/-- The files that successful writes name, one write after the other. Of a file that comes several
times `dedup` keeps the last place. -/
def namedFiles (ws : List Write) : List String :=
  (ws.filter fun w => w.WellPlaced).flatMap Write.files

theorem namedFiles_concat {ws : List Write} {w : Write} (h : w.WellPlaced) :
    namedFiles (ws ++ [w]) = namedFiles ws ++ w.files := by
  simp [namedFiles, h]

theorem namedFiles_concat_of_not_wellPlaced {ws : List Write} {w : Write} (h : ¬w.WellPlaced) :
    namedFiles (ws ++ [w]) = namedFiles ws := by
  simp [namedFiles, h]

theorem dedup_append_of_nodup {xs ys : List String} (hy : ys.Nodup) :
    (xs ++ ys).dedup = (xs.dedup.filter fun x => x ∉ ys) ++ ys := by
  induction xs with
  | nil => simpa using List.dedup_eq_self.mpr hy
  | cons x rest ih =>
    rw [List.cons_append]
    by_cases hx : x ∈ rest
    · rw [List.dedup_cons_of_mem (by simp [hx]), List.dedup_cons_of_mem hx, ih]
    · rw [List.dedup_cons_of_notMem hx]
      by_cases hxy : x ∈ ys
      · rw [List.dedup_cons_of_mem (by simp [hxy]), List.filter_cons_of_neg (by simp [hxy]), ih]
      · rw [List.dedup_cons_of_notMem (by simp [hx, hxy]), List.filter_cons_of_pos (by simp [hxy]),
          ih, List.cons_append]

section Blocks

variable (s : Snapshot) {w : Write}

theorem flatMap_ofFile_files (h : w.WellPlaced) :
    w.files.flatMap (s.after w).ofFile = w.listed.flatMap (·.2) := by
  rw [Write.files, Ordered.keys, List.flatMap_map]
  apply List.flatMap_congr
  intro e he
  exact ofFile_after_of_mem s h he

theorem filter_flatMap_ofFile (hc : w.isClear = false) (files : List String) :
    ((files.flatMap s.ofFile).filter fun d => d.location.file ∉ w.files) =
      (files.filter fun file => file ∉ w.files).flatMap (s.after w).ofFile := by
  induction files with
  | nil => rfl
  | cons file rest ih =>
    rw [List.flatMap_cons, List.filter_append, ih]
    by_cases hm : file ∈ w.files
    · have hnone : ((s.ofFile file).filter fun d => d.location.file ∉ w.files) = [] := by
        rw [ofFile, List.filter_filter, List.filter_eq_nil_iff]
        intro d _ hd
        simp only [Bool.and_eq_true, decide_eq_true_eq] at hd
        exact hd.1 (hd.2 ▸ hm)
      rw [hnone, List.filter_cons_of_neg (by simp [hm]), List.nil_append]
    · have hall : ((s.ofFile file).filter fun d => d.location.file ∉ w.files) = s.ofFile file := by
        rw [List.filter_eq_self]
        intro d hd
        have hd := (List.mem_filter.mp hd).2
        simp_all
      rw [hall, List.filter_cons_of_pos (by simp [hm]), List.flatMap_cons,
        ofFile_after_of_not_mem s hc hm]

end Blocks

/-- The initial definitions that no write has touched. -/
def untouched (initial : List Definition) (ws : List Write) : List Definition :=
  if ws.any Write.isClear then []
  else initial.filter fun d => d.location.file ∉ namedFiles ws

theorem definitions_afterAll (initial : List Definition) (ws : List Write) :
    (afterAll ⟨0, initial⟩ ws).definitions = untouched initial ws ++
      (namedFiles ws).dedup.flatMap (afterAll ⟨0, initial⟩ ws).ofFile := by
  -- the last write decides which files come last, so writes are taken off at the end
  induction ws using List.reverseRecOn with
  | nil => simp [afterAll, untouched, namedFiles]
  | append_singleton ws w ih =>
    rw [afterAll_append]
    change ((afterAll ⟨0, initial⟩ ws).after w).definitions = _ ++
      List.flatMap ((afterAll ⟨0, initial⟩ ws).after w).ofFile _
    generalize afterAll ⟨0, initial⟩ ws = s at ih
    by_cases h : w.WellPlaced
    · cases hc : w.isClear with
      | true =>
        obtain rfl := Write.eq_clear hc
        have hnone : (s.after .clear).ofFile = fun _ => [] := rfl
        rw [hnone]
        simp [untouched, Write.isClear, after, Write.run, Snapshot.clear, publish]
      | false =>
        have hinitial : untouched initial (ws ++ [w]) =
            (untouched initial ws).filter fun d => d.location.file ∉ w.files := by
          unfold untouched
          rw [namedFiles_concat h, List.any_append]
          by_cases ha : ws.any Write.isClear
          · simp [ha]
          · simp [ha, hc, List.filter_filter, Bool.and_comm]
        rw [namedFiles_concat h, dedup_append_of_nodup w.nodup_files, List.flatMap_append,
          flatMap_ofFile_files s h, ← filter_flatMap_ofFile s hc, hinitial, ← List.append_assoc,
          ← List.filter_append, ← ih, after_of_wellPlaced s h, publish, Write.result,
          if_neg (by simp [hc])]
    · have hc : w.isClear = false :=
        Write.isClear_eq_false fun hclear => h (hclear ▸ Write.wellPlaced_clear)
      rw [after_of_not_wellPlaced s h, namedFiles_concat_of_not_wellPlaced h, ih]
      simp [untouched, hc, namedFiles_concat_of_not_wellPlaced h]

@[simp] theorem version_afterAll (s : Snapshot) (ws : List Write) :
    (s.afterAll ws).version = s.version + ws.countP fun w => w.WellPlaced := by
  induction ws generalizing s with
  | nil => rfl
  | cons w rest ih =>
    rw [afterAll_cons, ih]
    by_cases h : w.WellPlaced
    · have hv : (s.after w).version = s.version + 1 := by rw [after_of_wellPlaced s h, publish]
      rw [hv, List.countP_cons_of_pos (by simp [h])]
      omega
    · rw [after_of_not_wellPlaced s h, List.countP_cons_of_neg (by simp [h])]

/-! The log. -/

/-- A registry holds what its log says: the writes to it, of which the well placed ones succeed. -/
structure FollowsLog (initial : List Definition) (ws : List Write) (s : Snapshot) : Prop where
  /-- Versions count the successful writes. -/
  version_eq : s.version = ws.countP fun w => w.WellPlaced
  /-- A file has the definitions of the last successful write that names it. -/
  ofFile_given : ∀ before w after file definitions, ws = before ++ w :: after → w.WellPlaced →
    (file, definitions) ∈ w.listed →
    (∀ x ∈ after, x.WellPlaced → x ≠ .clear ∧ file ∉ x.files) → s.ofFile file = definitions
  /-- It has none if all definitions were removed after that. -/
  ofFile_cleared : ∀ before after file, ws = before ++ .clear :: after →
    (∀ x ∈ after, x.WellPlaced → file ∉ x.files) → s.ofFile file = []
  /-- It has its initial ones if it was never named and nothing was removed. -/
  ofFile_initial : ∀ file, (∀ w ∈ ws, w.WellPlaced → w ≠ .clear ∧ file ∉ w.files) →
    s.ofFile file = initial.filter fun d => d.location.file = file
  /-- First come the initial definitions of the files that were never named, then one block for
  each file that was, in the order of the last successful writes that name them. -/
  definitions_eq : s.definitions = untouched initial ws ++ (namedFiles ws).dedup.flatMap s.ofFile

/-- Writes fail exactly if they list a definition under another file than its own, and then change
nothing; what the others leave is what the log of all writes says. -/
theorem afterAll_followsLog (initial : List Definition) (ws : List Write) :
    (∀ (s : Snapshot) (w : Write),
      ((∃ fault, w.run s = .error fault) ↔
        ∃ entry ∈ w.listed, ∃ d ∈ entry.2, d.location.file ≠ entry.1) ∧
      ((∃ fault, w.run s = .error fault) → s.after w = s)) ∧
    FollowsLog initial ws (afterAll ⟨0, initial⟩ ws) := by
  refine ⟨fun s w => ⟨?_, fun h => ?_⟩, ?_, ?_, ?_, ?_, definitions_afterAll initial ws⟩
  · rw [Write.run_eq_error_iff, Write.WellPlaced, Write.Placed]
    push Not
    rfl
  · exact after_of_not_wellPlaced s (Write.run_eq_error_iff.mp h)
  · rw [version_afterAll, Nat.zero_add]
  · rintro before w after file definitions rfl hw hm hafter
    rw [afterAll_append, afterAll_cons, ofFile_afterAll_of_not_mem _ fun x hx hp =>
      ⟨Write.isClear_eq_false (hafter x hx hp).1, (hafter x hx hp).2⟩]
    exact ofFile_after_of_mem _ hw hm
  · rintro before after file rfl hafter
    rw [afterAll_append, afterAll_cons]
    exact ofFile_afterAll_eq_nil _ (ofFile_after_clear _) hafter
  · intro file h
    rw [ofFile_afterAll_of_not_mem _ fun x hx hp =>
      ⟨Write.isClear_eq_false (h x hx hp).1, (h x hx hp).2⟩]
    rfl

end Snapshot
end ScenarioCheck
