import ScenarioCheck.Chain.Dependencies
import ScenarioCheck.Chain.Produced
import ScenarioCheck.Proofs.Step.Declared

/-! Declarations as they are read off a chain and as they run. Reading reports what is wrong and goes
on where a builder stops at the first fault; both take the same declarations, and keep the same of
them. -/
namespace ScenarioCheck.Chain

open Source Scope
open Step (Kind Requirement Dependencies Written Builder)

/-! How a call is written. -/

def readValues {α : Type} (read : Expr → Option α) (entries : List (String × Expr)) :
    Option (List (String × α)) :=
  entries.mapM fun (name, e) => (read e).map (name, ·)

def texts? : Expr → Option (List (String × String))
  | .dict _ entries => (textEntries? entries).bind (readValues text?)
  | _ => none

inductive WrittenCall where
  | mapping (declared : Written)
  | named (phases : Written)

/-- A call with one dictionary, or with arguments by name only, and no text missing in it. -/
def writtenCall? (call : Application) : Option WrittenCall :=
  match call.arguments, call.keywords with
  | [.dict _ entries], [] =>
    ((textEntries? entries).bind (readValues texts?)).map .mapping
  | [], keywords =>
    (((namedArguments? keywords).bind (readValues texts?)).filter
      fun phases => "declared" ∉ Ordered.keys phases).map .named
  | _, _ => none

namespace WrittenCall

def phases : WrittenCall → Written
  | mapping declared => declared
  | named phases => phases

def run (c : WrittenCall) (b : Builder) : Except Step.BuildError Builder :=
  match c with
  | mapping declared => b.declareDependencies declared.value []
  | named phases => b.declareDependencies [] phases.value

end WrittenCall

/-! What is read of texts. -/

theorem readValues_cons {α : Type} {read : Expr → Option α} {name : String} {e : Expr}
    {all : List (String × Expr)} {values : List (String × α)}
    (h : readValues read ((name, e) :: all) = some values) :
    ∃ value rest, read e = some value ∧ readValues read all = some rest ∧
      values = (name, value) :: rest := by
  unfold readValues at h
  rw [List.mapM_cons] at h
  obtain ⟨first, hfirst, h⟩ := Option.bind_eq_some_iff.mp h
  obtain ⟨rest, hrest, h⟩ := Option.bind_eq_some_iff.mp h
  obtain ⟨value, hvalue, rfl⟩ := Option.map_eq_some_iff.mp hfirst
  cases h
  exact ⟨value, rest, hvalue, hrest, rfl⟩

theorem requirementsFrom_ofRequirements {all : List (String × Expr)}
    {rs : List (String × Requirement)}
    (h : readValues text? all = some (Written.ofRequirements rs))
    (met : List (String × Requirement)) :
    requirementsFrom met all = ⟨Ordered.putAll met rs, []⟩ := by
  induction all generalizing rs met with
  | nil =>
    obtain rfl : rs = [] := by simpa [readValues, Written.ofRequirements] using h
    rfl
  | cons e all ih =>
    obtain ⟨text, rest, htext, hrest, heq⟩ := readValues_cons h
    cases rs with
    | nil => cases heq
    | cons r rs =>
      obtain ⟨hr, rfl⟩ := List.cons.inj heq
      obtain ⟨hname, rfl⟩ := Prod.mk.inj hr
      have hread : (text? e.2).bind Requirement.ofName? = some r.2 := by
        rw [htext]
        exact Requirement.ofName?_name r.2
      unfold requirementsFrom
      simp only [hread, ih hrest]
      rw [← hname]
      rfl

theorem exists_ofRequirements_of_issues {all : List (String × Expr)}
    {entries : List (String × String)} {met : List (String × Requirement)}
    (h : readValues text? all = some entries) (hissues : (requirementsFrom met all).issues = []) :
    ∃ rs, entries = Written.ofRequirements rs := by
  induction all generalizing entries met with
  | nil =>
    cases h
    exact ⟨[], rfl⟩
  | cons e all ih =>
    obtain ⟨text, rest, htext, hrest, rfl⟩ := readValues_cons h
    unfold requirementsFrom at hissues
    split at hissues
    · rename_i r hr
      rw [htext] at hr
      obtain ⟨rs, rfl⟩ := ih hrest hissues
      refine ⟨(e.1, r) :: rs, ?_⟩
      rw [← Requirement.ofName?_eq_some_iff.mp hr]
      rfl
    · cases hissues

theorem addPhase_ofRequirements {kind phase : Kind} {e : Expr} {rs : List (String × Requirement)}
    (h : texts? e = some (Written.ofRequirements rs)) (hallowed : kind.mayDependOn phase = true)
    (met : Reading Dependencies) :
    addPhase kind met (phase.name, e) =
      ⟨Ordered.put phase (Ordered.ofList rs) met.value, met.issues⟩ := by
  have hread : requirements phase e = ⟨Ordered.ofList rs, []⟩ := by
    unfold texts? at h
    split at h
    · obtain ⟨all, hall, h⟩ := Option.bind_eq_some_iff.mp h
      simp only [requirements, hall]
      exact requirementsFrom_ofRequirements h []
    · cases h
  simp [addPhase, hallowed, hread]

theorem exists_phase_of_issues {kind : Kind} {name : String} {e : Expr}
    {entries : List (String × String)} {met : Reading Dependencies} (h : texts? e = some entries)
    (hissues : (addPhase kind met (name, e)).issues = []) :
    met.issues = [] ∧ ∃ phase rs, phase.name = name ∧ kind.mayDependOn phase = true ∧
      entries = Written.ofRequirements rs := by
  unfold addPhase at hissues
  dsimp only at hissues
  split at hissues
  · simp at hissues
  · rename_i phase hphase
    simp only [List.append_eq_nil_iff] at hissues
    obtain ⟨⟨hmet, hlate⟩, hread⟩ := hissues
    refine ⟨hmet, phase, ?_⟩
    unfold texts? at h
    split at h
    · obtain ⟨all, hall, h⟩ := Option.bind_eq_some_iff.mp h
      simp only [requirements, hall] at hread
      obtain ⟨rs, rfl⟩ := exists_ofRequirements_of_issues h hread
      exact ⟨rs, Kind.ofName?_eq_some_iff.mp hphase, by simpa using hlate, rfl⟩
    · cases h

theorem foldl_addPhase_ofDependencies {kind : Kind} {all : List (String × Expr)}
    {ds : Dependencies} (h : readValues texts? all = some (Written.ofDependencies ds))
    (hallowed : ∀ phase ∈ Ordered.keys ds, kind.mayDependOn phase = true)
    (met : Reading Dependencies) :
    all.foldl (addPhase kind) met =
      ⟨Ordered.putAll met.value (ds.map (Prod.map id Ordered.ofList)), met.issues⟩ := by
  induction all generalizing ds met with
  | nil =>
    obtain rfl : ds = [] := by simpa [readValues, Written.ofDependencies] using h
    rfl
  | cons e all ih =>
    obtain ⟨entries, rest, htexts, hrest, heq⟩ := readValues_cons h
    cases ds with
    | nil => cases heq
    | cons d ds =>
      obtain ⟨hd, rfl⟩ := List.cons.inj heq
      obtain ⟨hname, rfl⟩ := Prod.mk.inj hd
      obtain ⟨name, e⟩ := e
      obtain rfl : d.1.name = name := hname
      rw [List.foldl_cons, addPhase_ofRequirements htexts (hallowed d.1 (.head _)),
        ih hrest fun phase hphase => hallowed phase (.tail _ hphase)]
      rfl

theorem exists_ofDependencies_of_issues {kind : Kind} {all : List (String × Expr)} {w : Written}
    {met : Reading Dependencies} (h : readValues texts? all = some w)
    (hissues : (all.foldl (addPhase kind) met).issues = []) :
    met.issues = [] ∧ ∃ ds, w = Written.ofDependencies ds ∧
      ∀ phase ∈ Ordered.keys ds, kind.mayDependOn phase = true := by
  induction all generalizing w met with
  | nil =>
    cases h
    exact ⟨hissues, [], rfl, nofun⟩
  | cons e all ih =>
    obtain ⟨entries, rest, htexts, hrest, rfl⟩ := readValues_cons h
    obtain ⟨hmet, ds, rfl, hall⟩ := ih hrest hissues
    obtain ⟨hmet, phase, rs, hname, hallowed, rfl⟩ := exists_phase_of_issues htexts hmet
    refine ⟨hmet, (phase, rs) :: ds, by rw [← hname]; rfl, ?_⟩
    exact List.forall_mem_cons.mpr ⟨hallowed, hall⟩

/-! Calls of the stages. -/

theorem namedArguments?_eq_some {keywords : List (Keyword Expr)} {all : List (String × Expr)}
    (h : namedArguments? keywords = some all) :
    keywords.find? (·.name?.isNone) = none ∧
      (keywords.filterMap fun k => k.name?.map fun name => (name, k.value)) = all := by
  induction keywords generalizing all with
  | nil =>
    cases h
    exact ⟨rfl, rfl⟩
  | cons k keywords ih =>
    obtain ⟨name, hname, h⟩ := Option.bind_eq_some_iff.mp h
    obtain ⟨rest, hrest, h⟩ := Option.bind_eq_some_iff.mp h
    cases h
    obtain ⟨hspread, hnamed⟩ := ih hrest
    simp [hname, hspread, hnamed]

theorem exists_phases_of_writtenCall? {call : Application} {c : WrittenCall}
    (h : writtenCall? call = some c) :
    ∃ all, phases call = .ok all ∧ readValues texts? all = some c.phases := by
  unfold writtenCall? at h
  split at h
  · rename_i p entries harguments hkeywords
    obtain ⟨w, hw, rfl⟩ := Option.map_eq_some_iff.mp h
    obtain ⟨all, hall, hw⟩ := Option.bind_eq_some_iff.mp hw
    exact ⟨all, by simp [phases, harguments, hkeywords, hall], hw⟩
  · rename_i keywords harguments
    obtain ⟨w, hw, rfl⟩ := Option.map_eq_some_iff.mp h
    obtain ⟨all, hall, hw⟩ := Option.bind_eq_some_iff.mp (Option.filter_eq_some_iff.mp hw).1
    obtain ⟨hspread, hnamed⟩ := namedArguments?_eq_some hall
    exact ⟨all, by simp only [phases, harguments, hspread, hnamed], hw⟩
  · cases h

namespace WrittenCall

variable {b b' : Builder} {c : WrittenCall}

theorem withDependencies_of_run (h : c.run b = .ok b') :
    b.withDependencies c.phases.value [] = .ok b' := by
  cases c with
  | mapping declared => exact h
  | named phases =>
    unfold run Builder.declareDependencies at h
    dsimp only at h
    split at h
    · cases h
    · exact h

theorem run_of_ofDependencies {ds : Dependencies} (hc : c.phases = Written.ofDependencies ds)
    (hallowed : ∀ phase ∈ Ordered.keys ds, b.kind.mayDependOn phase = true) :
    c.run b = .ok { b with dependencies := Ordered.ofList (ds.map (Prod.map id Ordered.ofList)) } := by
  have hrun := Builder.withDependencies_value_ofDependencies hallowed
  rw [← hc] at hrun
  cases c with
  | mapping declared => exact hrun
  | named phases =>
    have hkeys : Ordered.keys phases.value = (Ordered.keys ds).map Kind.name := by
      rw [Written.value, Ordered.keys_map_id, show phases = _ from hc]
      simp [Written.ofDependencies, Ordered.keys]
    have hparameters : Builder.repeated? ["self", "declared"] phases.value = none := by
      rw [Builder.repeated?_eq_none_iff, hkeys, List.forall_mem_map]
      intro phase hphase
      cases phase <;> decide
    unfold run Builder.declareDependencies
    simp only [hparameters]
    exact hrun

end WrittenCall

section Read

variable {kind : Kind} {call : Application} {c : WrittenCall} (h : writtenCall? call = some c)
include h

theorem readDependencies_ofDependencies {ds : Dependencies}
    (hc : c.phases = Written.ofDependencies ds)
    (hallowed : ∀ phase ∈ Ordered.keys ds, kind.mayDependOn phase = true) :
    readDependencies kind call =
      ⟨some (Ordered.ofList (ds.map (Prod.map id Ordered.ofList))), []⟩ := by
  obtain ⟨all, hall, hread⟩ := exists_phases_of_writtenCall? h
  rw [hc] at hread
  simp only [readDependencies, hall, foldl_addPhase_ofDependencies hread hallowed]
  rfl

theorem exists_ofDependencies_of_readDependencies (hissues : (readDependencies kind call).issues = []) :
    ∃ ds, c.phases = Written.ofDependencies ds ∧
      ∀ phase ∈ Ordered.keys ds, kind.mayDependOn phase = true := by
  obtain ⟨all, hall, hread⟩ := exists_phases_of_writtenCall? h
  simp only [readDependencies, hall] at hissues
  exact (exists_ofDependencies_of_issues hread hissues).2

variable {b : Builder}

theorem run_of_readDependencies (hissues : (readDependencies b.kind call).issues = []) :
    ∃ b', c.run b = .ok b' ∧ (readDependencies b.kind call).value = some b'.dependencies := by
  obtain ⟨ds, hc, hallowed⟩ := exists_ofDependencies_of_readDependencies h hissues
  refine ⟨_, c.run_of_ofDependencies hc hallowed, ?_⟩
  rw [readDependencies_ofDependencies h hc hallowed]

theorem issues_of_run (hw : c.phases.HasNoRepeats) {b' : Builder} (hrun : c.run b = .ok b') :
    (readDependencies b.kind call).issues = [] := by
  -- an entry that a later one replaces is read, but never seen by the builder
  obtain ⟨ds, hds, -⟩ := Builder.withDependencies_eq_ok_iff.mp (c.withDependencies_of_run hrun)
  rw [hw.ofList_value] at hds
  obtain ⟨hc, hallowed⟩ := Step.eq_ofDependencies_of_readDependencies hds
  rw [readDependencies_ofDependencies h hc hallowed]

end Read

def listed? (call : Application) : Option (List (String × Expr)) :=
  match call.arguments with
  | [] => some []
  | [.dict _ entries] => textEntries? entries
  | _ => none

/-- The fields that a call of the stage is written with, in a dictionary and by name, with the values
of their expressions. -/
def writtenFields? (value : Expr → State.Value) (call : Application) :
    Option (State.Entries × State.Entries) := do
  let schema ← listed? call
  let fields ← namedArguments? call.keywords
  return (schema.map (Prod.map id value), fields.map (Prod.map id value))

theorem declaredTypes?_eq (call : Application) :
    declaredTypes? call = (listed? call).bind fun schema =>
      (namedArguments? call.keywords).map fun fields => schema ++ fields := by
  unfold declaredTypes? listed?
  rcases call.arguments with _ | ⟨argument, _ | _⟩
  · cases namedArguments? call.keywords <;> rfl
  · cases argument <;> try rfl
    rename_i entries
    cases textEntries? entries <;> cases namedArguments? call.keywords <;> rfl
  · cases argument <;> rfl

theorem declaredSchema?_of_writtenFields? {value : Expr → State.Value} {call : Application}
    {schema fields : State.Entries} (h : writtenFields? value call = some (schema, fields))
    (b : Builder) : ∃ shapes, declaredSchema? call = some shapes ∧
      (b.withProduces schema fields).produces.map Ordered.keys = some (Ordered.keys shapes) := by
  obtain ⟨listed, hlisted, h⟩ := Option.bind_eq_some_iff.mp h
  obtain ⟨named, hnamed, h⟩ := Option.bind_eq_some_iff.mp h
  cases h
  have hschema : declaredSchema? call = some
      (Ordered.ofList ((listed ++ named).map fun (name, e) => (name, declaredShape false e))) := by
    rw [declaredSchema?, declaredTypes?_eq, hlisted, hnamed]
    rfl
  refine ⟨_, hschema, ?_⟩
  simp only [Builder.withProduces, Ordered.putAll_ofList, ← List.map_append, Option.map_some]
  rw [Ordered.keys_ofList_eq]
  simp [Ordered.keys, Function.comp_def]

/-- Dependencies and fields that are written out as texts are read as a builder of the same kind takes
them: what is read without issues is taken, and kept the same and in the same order; an issue is found
exactly if the builder refuses, where nothing is written twice; and the fields that are read are those
that the builder keeps, in the same order. -/
theorem declarations_agree (b : Builder) :
    (∀ call c, writtenCall? call = some c →
      ((readDependencies b.kind call).issues = [] → ∃ b', c.run b = .ok b' ∧
        (readDependencies b.kind call).value = some b'.dependencies) ∧
      (c.phases.HasNoRepeats →
        ((readDependencies b.kind call).issues ≠ [] ↔ ∃ e, c.run b = .error e))) ∧
    ∀ value call schema fields, writtenFields? value call = some (schema, fields) →
      "schema" ∉ Ordered.keys fields → "self" ∉ Ordered.keys fields →
      ∃ shapes b', declaredSchema? call = some shapes ∧ b.declareProduces schema fields = .ok b' ∧
        b'.produces.map Ordered.keys = some (Ordered.keys shapes) := by
  refine ⟨fun call c h => ⟨run_of_readDependencies h, fun hw => ⟨fun hissues => ?_, ?_⟩⟩, ?_⟩
  · cases hrun : c.run b with
    | error e => exact ⟨e, rfl⟩
    | ok b' => exact absurd (issues_of_run h hw hrun) hissues
  · rintro ⟨e, he⟩ hissues
    obtain ⟨b', hb', -⟩ := run_of_readDependencies h hissues
    rw [he] at hb'
    cases hb'
  · intro value call schema fields h hschema hself
    obtain ⟨shapes, hshapes, hkeys⟩ := declaredSchema?_of_writtenFields? h b
    have hparameters : Builder.repeated? ["self", "schema"] fields = none := by
      rw [Builder.repeated?_eq_none_iff]
      rintro key hkey hmem
      rcases List.mem_cons.mp hmem with rfl | hmem
      · exact hself hkey
      · exact hschema (List.mem_singleton.mp hmem ▸ hkey)
    refine ⟨shapes, b.withProduces schema fields, hshapes, ?_, hkeys⟩
    rw [Builder.declareProduces, hparameters]

/-- A call that declares what a `when` step needs before what it needs of `given` steps. -/
def sampleDependencies : Application where
  position := ⟨1, 0⟩
  arguments := [.dict ⟨1, 14⟩ [(some (.constant ⟨1, 15⟩ (.text "when")),
      .dict ⟨1, 23⟩ [(some (.constant ⟨1, 24⟩ (.text "token")), .constant ⟨1, 33⟩ (.text "optional"))]),
    (some (.constant ⟨1, 46⟩ (.text "given")), .dict ⟨1, 55⟩ [])]]
  keywords := []

def sampleLater : Application where
  position := ⟨1, 0⟩
  arguments := []
  keywords := [⟨⟨1, 14⟩, some "then", .dict ⟨1, 19⟩ []⟩]

def sampleFields : Application where
  position := ⟨1, 0⟩
  arguments := [.dict ⟨1, 10⟩ [(some (.constant ⟨1, 11⟩ (.text "token")), .name ⟨1, 20⟩ "str"),
    (some (.constant ⟨1, 25⟩ (.text "user")), .name ⟨1, 33⟩ "str"),
    (some (.constant ⟨1, 38⟩ (.text "token")), .name ⟨1, 47⟩ "int")]]
  keywords := [⟨⟨1, 53⟩, some "age", .name ⟨1, 57⟩ "int"⟩]

theorem declarations_agree_sampleCalls :
    let b : Builder := { kind := .when, statement := .text "the user logs in" }
    (∃ b', (WrittenCall.mapping [("when", [("token", "optional")]), ("given", [])]).run b = .ok b' ∧
        (readDependencies .when sampleDependencies).value = some b'.dependencies) ∧
      (∃ e, (WrittenCall.named [("then", [])]).run b = .error e) ∧
      ∃ shapes b', declaredSchema? sampleFields = some shapes ∧
        b.declareProduces [("token", .none), ("user", .none), ("token", .none)] [("age", .none)] =
          .ok b' ∧
        b'.produces.map Ordered.keys = some (Ordered.keys shapes) := by
  intro b
  obtain ⟨hcalls, hfields⟩ := declarations_agree b
  refine ⟨(hcalls sampleDependencies _ rfl).1 (by decide),
    ((hcalls sampleLater _ rfl).2 (by simp [Written.HasNoRepeats, WrittenCall.phases])).mp
      (by decide), ?_⟩
  exact hfields (fun _ => .none) sampleFields _ _ rfl (by decide) (by decide)

/-- A field `self` by name is read, but no builder takes it: it names the builder itself. -/
theorem declareProduces_self_disagrees :
    ¬ ∀ (b : Builder) value call schema fields,
      writtenFields? value call = some (schema, fields) → "schema" ∉ Ordered.keys fields →
      ∃ shapes b', declaredSchema? call = some shapes ∧ b.declareProduces schema fields = .ok b' ∧
        b'.produces.map Ordered.keys = some (Ordered.keys shapes) := by
  intro h
  let call : Application := ⟨⟨1, 0⟩, [], [⟨⟨1, 10⟩, some "self", .name ⟨1, 15⟩ "str"⟩]⟩
  obtain ⟨shapes, b', -, hrun, -⟩ := h ⟨.given, .text "a", [], none⟩ (fun _ => .none) call [] _ rfl
    (by decide)
  cases hrun

end ScenarioCheck.Chain
