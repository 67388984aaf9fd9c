import ScenarioCheck.Project.Configuration
import ScenarioCheck.Proofs.Validation.Walk
import Mathlib.Data.Option.Basic

/-! Configurations and the content of their file. Whatever a file holds, reading it gives a
configuration or a fault that it foresees, and a setting that the file does not validly set keeps its
default. The one content that breaks out of this gives something else than a table to all tools. -/
namespace ScenarioCheck

def Toml.ofTexts (texts : List String) : Toml := .array (texts.map .string)

@[simp] theorem Toml.texts?_eq_some_iff {value : Toml} {texts : List String} :
    value.texts? = some texts ↔ value = ofTexts texts := by
  cases value with
  | array items =>
    simp only [texts?, ofTexts, Toml.array.injEq]
    induction items generalizing texts with
    | nil => simp [eq_comm]
    | cons item rest ih =>
      cases item with
      | string first =>
        rw [List.mapM_cons]
        cases texts with
        | nil => simp [Option.bind_eq_some_iff]
        | cons text texts =>
          simp [Option.bind_eq_some_iff, ih, and_comm]
      | _ => cases texts <;> simp
  | _ => simp [texts?, ofTexts]

namespace Project

/-! What a file says. -/

def document? (content : ByteArray) : Option Toml.Members :=
  (String.fromUTF8? content).bind Toml.ofText?

/-- The document gives all tools a table, if it gives them anything. -/
def ToolsAreTable (content : ByteArray) : Prop :=
  ∀ members, document? content = some members →
    ∀ value, Ordered.get? "tool" members = some value → ∃ tools, value = .table tools

/-- There is a document, and in it this tool has a table or nothing. -/
def Readable (content : ByteArray) : Prop :=
  ∃ members, document? content = some members ∧
    (Ordered.get? "tool" members = none ∨
      ∃ tools, Ordered.get? "tool" members = some (.table tools) ∧
        (Ordered.get? "step-forge" tools = none ∨
          ∃ own, Ordered.get? "step-forge" tools = some (.table own)))

instance (value : Toml) (P : Toml.Members → Prop) [DecidablePred P] :
    Decidable (∃ members, value = .table members ∧ P members) :=
  match value with
  | .table members => decidable_of_iff (P members) (by simp)
  | .string _ | .bool _ | .integer | .float | .moment | .date | .time | .array _ =>
    isFalse (by simp)

instance (content : ByteArray) : Decidable (ToolsAreTable content) :=
  decidable_of_iff (∀ members ∈ document? content, ∀ value ∈ Ordered.get? "tool" members,
    ∃ tools, value = .table tools ∧ True) (by simp [ToolsAreTable])

instance (content : ByteArray) : Decidable (Readable content) :=
  decidable_of_iff (∃ members ∈ document? content, Ordered.get? "tool" members = none ∨
    ∃ value ∈ Ordered.get? "tool" members, ∃ tools, value = .table tools ∧
      (Ordered.get? "step-forge" tools = none ∨
        ∃ value ∈ Ordered.get? "step-forge" tools, ∃ own, value = .table own ∧ True))
    (by simp [Readable])

def Sets (content : ByteArray) (key : String) (value : Toml) : Prop :=
  ∃ members tools own, document? content = some members ∧
    Ordered.get? "tool" members = some (.table tools) ∧
      Ordered.get? "step-forge" tools = some (.table own) ∧ Ordered.get? key own = some value

def Takes {α : Type} (set : α → Prop) (default value : α) : Prop :=
  set value ∨ (∀ other, ¬set other) ∧ value = default

structure Settings.Follow (content : ByteArray) (s : Settings) : Prop where
  stepFiles : Takes (fun texts => Sets content "step-files" (.ofTexts texts))
    ["features/**/*.py"] s.stepFiles
  featureFiles : Takes (fun texts => Sets content "feature-files" (.ofTexts texts))
    ["**/*.feature"] s.featureFiles
  exclude : Takes (fun texts => Sets content "exclude" (.ofTexts texts))
    [".venv/**", "venv/**", "node_modules/**", "build/**"] s.exclude
  builderModules : Takes (fun texts => Sets content "builder-modules" (.ofTexts texts))
    ["step_forge_analysis.runtime", "step_forge"] s.builderModules
  reportsAmbiguity : Takes (fun b => Sets content "report-ambiguous-steps" (.bool b))
    true s.reportsAmbiguity
  /-- Disabled rules are a set, which is empty by default. -/
  disabledRules : ∀ rule, rule ∈ s.disabledRules ↔
    ∃ texts, Sets content "disable-rules" (.ofTexts texts) ∧ rule ∈ texts

def ConfigFault.IsForeseen : ConfigFault → Prop
  | .noTools _ => False
  | _ => True

/-! What the settings of a table are. -/

section Table

variable (members : Toml.Members)

def textsAt? (key : String) : Option (List String) :=
  (Ordered.get? key members).bind Toml.texts?

def switchAt? (key : String) : Option Bool :=
  match Ordered.get? key members with
  | some (.bool b) => some b
  | _ => none

@[simp] theorem switchAt?_eq_some_iff {key : String} {b : Bool} :
    switchAt? members key = some b ↔ Ordered.get? key members = some (.bool b) := by
  unfold switchAt?
  split
  · rename_i h
    simp [h]
  · rename_i h
    simp only [reduceCtorEq, false_iff]
    exact h b

variable {r : Settings × List Notice} {s : Settings} (hr : r.1 = s)
include hr

theorem fst_readTexts {set : List String → Settings → Settings} (present : List String)
    (hset : set present s = s) (key : String) :
    (Settings.readTexts members key set r).1 = set ((textsAt? members key).getD present) s := by
  unfold Settings.readTexts textsAt?
  cases Ordered.get? key members with
  | none => simp [hr, hset]
  | some value => cases h : value.texts? <;> simp [h, hr, hset]

theorem fst_readSwitch (key : String) :
    (match Ordered.get? key members with
      | some (.bool b) => ({ r.1 with reportsAmbiguity := b }, r.2)
      | _ => r).1 =
      { s with reportsAmbiguity := (switchAt? members key).getD s.reportsAmbiguity } := by
  unfold switchAt?
  split
  · rw [hr]
    rfl
  · exact hr

omit hr in
theorem fst_read : (Settings.read members {}).1 =
    { stepFiles := (textsAt? members "step-files").getD ["features/**/*.py"]
      featureFiles := (textsAt? members "feature-files").getD ["**/*.feature"]
      exclude := (textsAt? members "exclude").getD
        [".venv/**", "venv/**", "node_modules/**", "build/**"]
      builderModules := (textsAt? members "builder-modules").getD
        ["step_forge_analysis.runtime", "step_forge"]
      reportsAmbiguity := (switchAt? members "report-ambiguous-steps").getD true
      disabledRules := Snapshot.firsts ((textsAt? members "disable-rules").getD []) } := by
  -- each reading leaves the settings of the others, so the present value is still the default
  unfold Settings.read
  extract_lets r₁ r₂ r₃ r₄ r₅
  have h₁ : r₁.1 = _ := fst_readTexts members rfl ["features/**/*.py"] rfl "step-files"
  have h₂ : r₂.1 = _ := fst_readTexts members h₁ ["**/*.feature"] rfl "feature-files"
  have h₃ : r₃.1 = _ := fst_readTexts members h₂
    [".venv/**", "venv/**", "node_modules/**", "build/**"] rfl "exclude"
  have h₄ : r₄.1 = _ := fst_readTexts members h₃
    ["step_forge_analysis.runtime", "step_forge"] rfl "builder-modules"
  have h₅ : r₅.1 = _ := fst_readTexts members h₄ [] rfl "disable-rules"
  exact fst_readSwitch members h₅ "report-ambiguous-steps"

end Table

/-! What reading a file gives. -/

def Lists (content : ByteArray) (own : Toml.Members) : Prop :=
  ∀ key value, Sets content key value ↔ Ordered.get? key own = some value

theorem Sets.readable {content : ByteArray} {key : String} {value : Toml}
    (h : Sets content key value) : Readable content := by
  obtain ⟨members, tools, own, hdocument, htools, hown, -⟩ := h
  exact ⟨members, hdocument, .inr ⟨tools, htools, .inr ⟨own, hown⟩⟩⟩

theorem Readable.toolsAreTable {content : ByteArray} (h : Readable content) :
    ToolsAreTable content := by
  obtain ⟨members, hdocument, hmembers⟩ := h
  intro members' hdocument' value hvalue
  cases hdocument.symm.trans hdocument'
  cases hmembers with
  | inl hnone => cases hnone.symm.trans hvalue
  | inr htable =>
    obtain ⟨tools, htools, -⟩ := htable
    exact ⟨tools, Option.some.inj (hvalue.symm.trans htools)⟩

theorem lists_nil {content : ByteArray} (h : ¬Readable content) : Lists content [] := by
  intro key value
  simp only [Ordered.get?, reduceCtorEq, iff_false]
  intro hset
  exact h hset.readable

@[simp] theorem takes_getD {α : Type} (given? : Option α) (default : α) :
    Takes (fun value => given? = some value) default (given?.getD default) := by
  unfold Takes
  cases given? <;> simp

section Table

variable {content : ByteArray} {own : Toml.Members} (h : Lists content own)
include h

@[simp] theorem sets_texts_iff {key : String} {texts : List String} :
    Sets content key (.ofTexts texts) ↔ textsAt? own key = some texts := by
  simp only [h key, textsAt?, Option.bind_eq_some_iff, Toml.texts?_eq_some_iff, exists_eq_right]

@[simp] theorem sets_switch_iff {key : String} {b : Bool} :
    Sets content key (.bool b) ↔ switchAt? own key = some b := by
  rw [h key, switchAt?_eq_some_iff]

theorem follow_read : (Settings.read own {}).1.Follow content := by
  have htexts (key : String) (default : List String) :
      Takes (fun texts => Sets content key (.ofTexts texts)) default
        ((textsAt? own key).getD default) := by
    simp only [sets_texts_iff h]
    exact takes_getD _ default
  rw [fst_read]
  refine ⟨htexts _ _, htexts _ _, htexts _ _, htexts _ _, ?_, fun rule => ?_⟩
  · simp only [sets_switch_iff h]
    exact takes_getD _ true
  · rw [Snapshot.mem_firsts]
    simp only [sets_texts_iff h]
    cases textsAt? own "disable-rules" <;> simp

end Table

inductive Reads (path : Path) (content : ByteArray) : Except ConfigFault Toml.Members → Prop
  | table {own : Toml.Members} (readable : Readable content) (lists : Lists content own) :
      Reads path content (.ok own)
  | unreadable {fault : ConfigFault} (tools : ToolsAreTable content)
      (unreadable : ¬Readable content)
      (faulty : fault = .undecodable path ∨ fault = .malformed path ∨ fault = .noTable path) :
      Reads path content (.error fault)
  | noTools {type : String} (noTools : ¬ToolsAreTable content) :
      Reads path content (.error (.noTools type))

section Read

variable {w : Workplace} {path : Path} {content : ByteArray}

theorem reads_of_no_document (hdocument : document? content = none) {fault : ConfigFault}
    (hfault : fault = .undecodable path ∨ fault = .malformed path ∨ fault = .noTable path) :
    Reads path content (.error fault) := by
  refine .unreadable ?_ ?_ hfault
  · intro members hmembers
    cases hdocument.symm.trans hmembers
  · rintro ⟨members, hmembers, -⟩
    cases hdocument.symm.trans hmembers

theorem reads_section? {members : Toml.Members} (hdocument : document? content = some members) :
    Reads path content (section? path members) := by
  have hsets (key : String) (value : Toml) : Sets content key value ↔ ∃ tools own,
      Ordered.get? "tool" members = some (.table tools) ∧
        Ordered.get? "step-forge" tools = some (.table own) ∧ Ordered.get? key own = some value := by
    simp [Sets, hdocument]
  have hreadable : Readable content ↔ Ordered.get? "tool" members = none ∨
      ∃ tools, Ordered.get? "tool" members = some (.table tools) ∧
        (Ordered.get? "step-forge" tools = none ∨
          ∃ own, Ordered.get? "step-forge" tools = some (.table own)) := by
    simp [Readable, hdocument]
  have htools : ToolsAreTable content ↔
      ∀ value, Ordered.get? "tool" members = some value → ∃ tools, value = .table tools := by
    simp [ToolsAreTable, hdocument]
  -- the cases are those of the document: all tools first, then this tool below them
  unfold section?
  split
  · rename_i htool
    refine .table (hreadable.mpr (.inl htool)) fun key value => ?_
    simp [hsets, htool]
  · rename_i tools htool
    split
    · rename_i hforge
      refine .table (hreadable.mpr (.inr ⟨tools, htool, .inl hforge⟩)) fun key value => ?_
      simp [hsets, htool, hforge]
    · rename_i own hforge
      refine .table (hreadable.mpr (.inr ⟨tools, htool, .inr ⟨own, hforge⟩⟩)) fun key value => ?_
      simp [hsets, htool, hforge]
    · rename_i other hother hforge
      refine .unreadable (htools.mpr (by simp [htool])) ?_ (by simp)
      simp only [hreadable, htool, Option.some.injEq, Toml.table.injEq, reduceCtorEq, false_or,
        exists_eq_left']
      intro hown
      cases hown with
      | inl hnone => cases hforge.symm.trans hnone
      | inr htable =>
        obtain ⟨own, hown⟩ := htable
        exact hother own (Option.some.inj (hforge.symm.trans hown))
  · rename_i other hother htool
    refine .noTools fun h => ?_
    obtain ⟨tools, htable⟩ := htools.mp h other htool
    exact hother tools htable

theorem reads_readSection (hread : w.disk.read (w.absolute path) = .ok content) :
    Reads path content (readSection w path) := by
  unfold readSection
  rw [hread]
  dsimp only
  cases htext : String.fromUTF8? content with
  | none => exact reads_of_no_document (by simp [document?, htext]) (by simp)
  | some text =>
    dsimp only
    cases hmembers : Toml.ofText? text with
    | none => exact reads_of_no_document (by simp [document?, htext, hmembers]) (by simp)
    | some members => exact reads_section? (by simp [document?, htext, hmembers])

end Read

/-! What a configuration is. -/

/-- A result is the configuration of a file, with the settings that its content gives. -/
def Configures (path : Path) (content : ByteArray)
    (result : Except ConfigFault (Configuration × List Notice)) : Prop :=
  ∃ c notices, result = .ok (c, notices) ∧ c.path? = some path ∧ c.settings.Follow content

section Configuration

variable {w : Workplace} {path : Path} {content : ByteArray}

theorem configures_read {own : Toml.Members} (h : Lists content own) :
    Configures path content
      (.ok (⟨(Settings.read own {}).1, some path⟩, (Settings.read own {}).2)) :=
  ⟨_, _, rfl, rfl, follow_read h⟩

theorem configures_default (h : ¬Readable content) (notices : List Notice) :
    Configures path content (.ok (⟨{}, some path⟩, notices)) :=
  ⟨_, _, rfl, rfl, follow_read (lists_nil h)⟩

theorem ofFile_strict (h : Reads path content (readSection w path)) :
    (Readable content → Configures path content (Configuration.ofFile w true path)) ∧
    (ToolsAreTable content → ¬Readable content →
      ∃ fault, Configuration.ofFile w true path = .error fault ∧ fault.IsForeseen) := by
  unfold Configuration.ofFile
  generalize readSection w path = section? at h
  cases h with
  | table hreadable hlists => exact ⟨fun _ => configures_read hlists, fun _ h => absurd hreadable h⟩
  | unreadable _ hunreadable hfault =>
    refine ⟨fun h => absurd h hunreadable, fun _ _ => ⟨_, rfl, ?_⟩⟩
    rcases hfault with rfl | rfl | rfl <;> trivial
  | noTools hno => exact ⟨fun h => absurd h.toolsAreTable hno, fun h => absurd h hno⟩

theorem ofFile_lenient (h : Reads path content (readSection w path))
    (htools : ToolsAreTable content) :
    Configures path content (Configuration.ofFile w false path) := by
  unfold Configuration.ofFile
  generalize readSection w path = section? at h
  cases h with
  | table _ hlists => exact configures_read hlists
  | unreadable _ hunreadable hfault =>
    rcases hfault with rfl | rfl | rfl <;> exact configures_default hunreadable _
  | noTools hno => exact absurd htools hno

theorem ofFile_noTools (h : Reads path content (readSection w path))
    (hno : ¬ToolsAreTable content) :
    ∃ type, ∀ strict, Configuration.ofFile w strict path = .error (.noTools type) := by
  unfold Configuration.ofFile
  generalize readSection w path = section? at h
  cases h with
  | table hreadable _ => exact absurd hreadable.toolsAreTable hno
  | unreadable htools => exact absurd htools hno
  | noTools => exact ⟨_, fun strict => by cases strict <;> rfl⟩

theorem isFile_of_read (hread : w.disk.read (w.absolute path) = .ok content) :
    w.disk.isFile (w.absolute path) = true := by
  unfold Disk.read at hread
  unfold Disk.isFile
  split at hread
  · cases hread
  · split at hread
    · cases hread
    · split at hread
      · simp [*]
      · cases hread

variable {start? file? : Option Path}
  (hfile : file?.or (Configuration.find? w start?) = some path)
  (hread : w.disk.read (w.absolute path) = .ok content)
include hfile hread

theorem require_eq : Configuration.require w start? file? = Configuration.ofFile w true path := by
  simp [Configuration.require, hfile, isFile_of_read hread]

theorem load_eq (strict : Bool) :
    Configuration.load w file? start? strict = Configuration.ofFile w strict path := by
  simp [Configuration.load, hfile, Disk.exists?, isFile_of_read hread]

/-- A file that is there, given or found, has its effect contained unless it gives all tools
something else than a table. Strict reading gives its settings if it has a table for this tool or
nothing, and a fault that is foreseen otherwise; lenient reading always gives its settings, those it
does not validly set by default. -/
theorem configuration_contained :
    (ToolsAreTable content →
      (Readable content →
        Configures path content (Configuration.require w start? file?)) ∧
      (¬Readable content →
        ∃ fault, Configuration.require w start? file? = .error fault ∧ fault.IsForeseen) ∧
      Configures path content (Configuration.load w file? start? false)) ∧
    (¬ToolsAreTable content →
      ∃ type, Configuration.require w start? file? = .error (.noTools type) ∧
        Configuration.load w file? start? false = .error (.noTools type)) := by
  have hreads : Reads path content (readSection w path) := reads_readSection hread
  rw [require_eq hfile hread, load_eq hfile hread]
  refine ⟨fun htools => ⟨(ofFile_strict hreads).1, (ofFile_strict hreads).2 htools,
    ofFile_lenient hreads htools⟩, fun hno => ?_⟩
  obtain ⟨type, htype⟩ := ofFile_noTools hreads hno
  exact ⟨type, htype true, htype false⟩

end Configuration

def workplaceWith (content : ByteArray) : Workplace where
  disk := Disk.write {} [Configuration.fileName] content
  current := ⟨"/", []⟩

def halfValid : ByteArray := "[tool.step-forge]\nexclude = [\"a\"]\nstep-files = 1\n".toUTF8

def numberForSection : ByteArray := "[tool]\nstep-forge = 1\n".toUTF8

def numberForTools : ByteArray := "tool = 1\n".toUTF8

theorem configuration_contained_workplaceWith :
    let path : Path := ⟨"/", [Configuration.fileName]⟩
    (Readable halfValid ∧
      Configures path halfValid (Configuration.require (workplaceWith halfValid) none none) ∧
      Configures path halfValid (Configuration.load (workplaceWith halfValid) none none false)) ∧
    (¬Readable numberForSection ∧ ToolsAreTable numberForSection ∧
      (∃ fault, Configuration.require (workplaceWith numberForSection) none none = .error fault ∧
        fault.IsForeseen) ∧
      Configures path numberForSection
        (Configuration.load (workplaceWith numberForSection) none none false)) ∧
    (¬ToolsAreTable numberForTools ∧ ∃ type,
      Configuration.require (workplaceWith numberForTools) none none = .error (.noTools type) ∧
        Configuration.load (workplaceWith numberForTools) none none false =
          .error (.noTools type)) := by
  intro path
  have hvalid :=
    @configuration_contained (workplaceWith halfValid) path halfValid none none (by decide +kernel) rfl
  have hsection :=
    @configuration_contained (workplaceWith numberForSection) path numberForSection none none (by decide +kernel) rfl
  have htools :=
    @configuration_contained (workplaceWith numberForTools) path numberForTools none none (by decide +kernel) rfl
  have hreadable : Readable halfValid := by decide +kernel
  have hunreadable : ¬Readable numberForSection := by decide +kernel
  have htable : ToolsAreTable numberForSection := by decide +kernel
  have hnoTable : ¬ToolsAreTable numberForTools := by decide +kernel
  exact ⟨⟨hreadable, (hvalid.1 hreadable.toolsAreTable).1 hreadable,
      (hvalid.1 hreadable.toolsAreTable).2.2⟩,
    ⟨hunreadable, htable, (hsection.1 htable).2.1 hunreadable, (hsection.1 htable).2.2⟩,
    hnoTable, htools.2 hnoTable⟩

/-- With a number for all tools, neither way of reading keeps to what it foresees. -/
theorem not_contained_numberForTools :
    let w := workplaceWith numberForTools
    let path : Path := ⟨"", [Configuration.fileName]⟩
    w.disk.read (w.absolute path) = .ok numberForTools ∧
      Configuration.require w none none = .error (.noTools "int") ∧
      Configuration.load w (some path) none false = .error (.noTools "int") ∧
      ¬(ConfigFault.noTools "int").IsForeseen := by
  refine ⟨rfl, ?_, ?_, id⟩
  · decide +kernel
  · decide +kernel

end Project
end ScenarioCheck
