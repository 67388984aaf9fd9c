import Mathlib.Data.List.Induction
import Mathlib.Data.List.Nodup
import Mathlib.Data.Set.List
import ScenarioCheck.Chain.Analysis
import ScenarioCheck.Proofs.Scope.Standing

/-! Which chains a builder accepts. A chain is not broken exactly if each access is called and the
accesses are dependencies and products, each at most once and in any order, then perhaps the body, then
perhaps the registration. A chain that is not so written breaks at the first access that makes it so. -/
namespace ScenarioCheck.Chain

open Source Scope Step

def IsOrdered (names : List String) : Prop :=
  ∃ declared body registration : List String, names = declared ++ body ++ registration ∧
    declared.Nodup ∧ (∀ name ∈ declared, name = "dependencies" ∨ name = "produces") ∧
    (body = [] ∨ body = ["step"]) ∧ (registration = [] ∨ registration = ["register"])

def Accepted (accesses : List Access) : Prop :=
  (∀ a ∈ accesses, a.call?.isSome = true) ∧ IsOrdered (accesses.map (·.name))

namespace Stage

def Precedes (s t : Stage) : Prop := s ≠ t ∧ s.rank ≤ t.rank

instance (s t : Stage) : Decidable (s.Precedes t) := inferInstanceAs (Decidable (_ ∧ _))

theorem name_injective : Function.Injective name := by
  intro s t h
  have := congrArg ofName? h
  rw [ofName?_name, ofName?_name] at this
  exact Option.some.inj this

theorem eq_name_of_ofName? {name : String} {s : Stage} (h : ofName? name = some s) :
    name = s.name := by
  have := List.find?_some h
  exact (eq_of_beq this).symm

@[simp] theorem rank_eq_zero_iff (s : Stage) :
    s.rank = 0 ↔ s.name = "dependencies" ∨ s.name = "produces" := by
  cases s <;> decide

@[simp] theorem map_name_eq_singleton {stages : List Stage} {s : Stage} :
    stages.map name = [s.name] ↔ stages = [s] :=
  ⟨fun h => List.map_injective_iff.mpr name_injective h, fun h => h ▸ rfl⟩

theorem pairwise_of_isOrdered {stages : List Stage} (h : IsOrdered (stages.map name)) :
    stages.Pairwise Precedes := by
  obtain ⟨declared, body, registration, hnames, hnodup, hdeclared, hbody, hregistration⟩ := h
  obtain ⟨first, last, rfl, hfirst, rfl⟩ := List.map_eq_append_iff.mp hnames
  obtain ⟨ds, bs, rfl, rfl, rfl⟩ := List.map_eq_append_iff.mp hfirst
  have hds : ∀ s ∈ ds, s.rank = 0 := fun s hs =>
    (rank_eq_zero_iff s).mpr (hdeclared s.name (List.mem_map_of_mem hs))
  have hbs : bs = [] ∨ bs = [.step] :=
    hbody.imp List.map_eq_nil_iff.mp (map_name_eq_singleton (s := .step)).mp
  have hls : last = [] ∨ last = [.register] :=
    hregistration.imp List.map_eq_nil_iff.mp (map_name_eq_singleton (s := .register)).mp
  have hpairs : ds.Pairwise Precedes :=
    (List.Nodup.of_map name hnodup).imp_of_mem fun hs _ hne =>
      ⟨hne, by rw [hds _ hs]; exact Nat.zero_le _⟩
  have hbefore : ∀ s ∈ ds, s.Precedes .step ∧ s.Precedes .register := fun s hs => by
    have hrank := hds s hs
    cases s <;> first | exact ⟨by decide, by decide⟩ | cases hrank
  have hlast : Precedes .step .register := by decide
  rcases hbs with rfl | rfl <;> rcases hls with rfl | rfl <;>
    simp +contextual [List.pairwise_append, hpairs, hbefore, hlast]

theorem isOrdered_of_pairwise {stages : List Stage} (h : stages.Pairwise Precedes) :
    IsOrdered (stages.map name) := by
  induction stages with
  | nil => exact ⟨[], [], [], rfl, .nil, by simp, .inl rfl, .inl rfl⟩
  | cons s rest ih =>
    obtain ⟨hs, hrest⟩ := List.pairwise_cons.mp h
    obtain ⟨declared, body, registration, hnames, hnodup, hdeclared, hbody, hregistration⟩ := ih hrest
    have hafter : ∀ t : Stage, t.name ∈ declared ++ body ++ registration → s.Precedes t := by
      intro t ht
      obtain ⟨t', ht', hname⟩ := List.mem_map.mp (hnames ▸ ht)
      exact name_injective hname ▸ hs t' ht'
    by_cases hrank : s.rank = 0
    · refine ⟨s.name :: declared, body, registration, by simp [hnames],
        List.nodup_cons.mpr ⟨fun hmem => ?_, hnodup⟩,
        List.forall_mem_cons.mpr ⟨(rank_eq_zero_iff s).mp hrank, hdeclared⟩, hbody, hregistration⟩
      exact (hafter s (by simp [hmem])).1 rfl
    · -- only the body and the registration are left, so nothing is declared behind `s`
      have hnil : declared = [] := by
        refine List.eq_nil_iff_forall_not_mem.mpr fun name hmem => hrank ?_
        obtain rfl | rfl := hdeclared name hmem
        · exact Nat.le_zero.mp (hafter .dependencies (by simp [name, hmem])).2
        · exact Nat.le_zero.mp (hafter .produces (by simp [name, hmem])).2
      subst hnil
      cases s with
      | dependencies | produces => exact absurd rfl hrank
      | step =>
        obtain rfl | rfl := hbody
        · exact ⟨[], ["step"], registration, by simp [hnames, name], .nil, by simp, .inr rfl,
            hregistration⟩
        · exact absurd rfl (hafter .step (by simp [name])).1
      | register =>
        obtain rfl | rfl := hbody
        · obtain rfl | rfl := hregistration
          · exact ⟨[], [], ["register"], by simp [hnames, name], .nil, by simp, .inl rfl, .inr rfl⟩
          · exact absurd rfl (hafter .register (by simp [name])).1
        · exact absurd (hafter .step (by simp [name])).2 (by decide)

@[simp] theorem isOrdered_iff {stages : List Stage} :
    IsOrdered (stages.map name) ↔ stages.Pairwise Precedes :=
  ⟨pairwise_of_isOrdered, isOrdered_of_pairwise⟩

end Stage

/-! Stages that are called. -/

/-- The accesses that are these calls of stages. -/
def Spells (calls : List (Stage × Application)) (accesses : List Access) : Prop :=
  accesses.map (fun a => (a.name, a.call?)) = calls.map fun c => (c.1.name, some c.2)

theorem Spells.names {calls : List (Stage × Application)} {accesses : List Access}
    (h : Spells calls accesses) : accesses.map (·.name) = (calls.map (·.1)).map Stage.name := by
  simpa [Function.comp_def] using congrArg (List.map Prod.fst) h

theorem Spells.isSome {calls : List (Stage × Application)} {accesses : List Access}
    (h : Spells calls accesses) {a : Access} (ha : a ∈ accesses) : a.call?.isSome = true := by
  have hmem := h ▸ List.mem_map_of_mem (f := fun a : Access => (a.name, a.call?)) ha
  obtain ⟨c, -, hc⟩ := List.mem_map.mp hmem
  rw [← (Prod.mk.inj hc).2]
  rfl

theorem exists_stage_of_mem {names : List String} (h : IsOrdered names) {name : String}
    (hname : name ∈ names) : ∃ s : Stage, s.name = name := by
  obtain ⟨declared, body, registration, rfl, -, hdeclared, hbody, hregistration⟩ := h
  rcases List.mem_append.mp hname with hname | hname
  · rcases List.mem_append.mp hname with hname | hname
    · obtain rfl | rfl := hdeclared name hname
      · exact ⟨.dependencies, rfl⟩
      · exact ⟨.produces, rfl⟩
    · obtain rfl | rfl := hbody
      · cases hname
      · exact ⟨.step, (List.mem_singleton.mp hname).symm⟩
  · obtain rfl | rfl := hregistration
    · cases hname
    · exact ⟨.register, (List.mem_singleton.mp hname).symm⟩

theorem accepted_iff {accesses : List Access} :
    Accepted accesses ↔ ∃ calls, Spells calls accesses ∧ (calls.map (·.1)).Pairwise Stage.Precedes := by
  constructor
  · rintro ⟨hcalled, hordered⟩
    obtain ⟨calls, hcalls⟩ : accesses.map (fun a => (a.name, a.call?)) ∈
        Set.range (List.map fun c : Stage × Application => (c.1.name, some c.2)) := by
      rw [Set.range_list_map]
      intro pair hpair
      obtain ⟨a, ha, rfl⟩ := List.mem_map.mp hpair
      obtain ⟨call, hcall⟩ := Option.isSome_iff_exists.mp (hcalled a ha)
      obtain ⟨s, hs⟩ := exists_stage_of_mem hordered (List.mem_map_of_mem ha)
      exact ⟨(s, call), Prod.ext hs hcall.symm⟩
    have hspells : Spells calls accesses := hcalls.symm
    exact ⟨calls, hspells, Stage.isOrdered_iff.mp (hspells.names ▸ hordered)⟩
  · rintro ⟨calls, hspells, hpairs⟩
    exact ⟨fun a ha => hspells.isSome ha, hspells.names ▸ Stage.isOrdered_iff.mpr hpairs⟩

theorem accepted_nil : Accepted [] := accepted_iff.mpr ⟨[], (rfl : Spells [] []), .nil⟩

theorem Accepted.of_append {before after : List Access} (h : Accepted (before ++ after)) :
    Accepted before := by
  obtain ⟨calls, hspells, hpairs⟩ := accepted_iff.mp h
  rw [Spells, List.map_append] at hspells
  obtain ⟨first, last, rfl, hfirst, -⟩ := List.append_eq_map_iff.mp hspells
  exact accepted_iff.mpr ⟨first, hfirst.symm, (List.pairwise_append.mp (List.map_append ▸ hpairs)).1⟩

@[simp] theorem mayFollow_iff {met : List (Stage × Application)} {s : Stage} :
    mayFollow met s = true ↔ ∀ t ∈ met.map (·.1), t.Precedes s := by
  simp [mayFollow, Stage.Precedes]

theorem pairwise_concat_iff {met : List (Stage × Application)} {s : Stage}
    (h : (met.map (·.1)).Pairwise Stage.Precedes) (call : Application) :
    ((met ++ [(s, call)]).map (·.1)).Pairwise Stage.Precedes ↔ mayFollow met s = true := by
  rw [mayFollow_iff, List.map_append, List.pairwise_append]
  simp [h]

theorem stagesFrom_append {calls met : List (Stage × Application)} {accesses rest : List Access}
    (h : Spells calls accesses) (hpairs : ((met ++ calls).map (·.1)).Pairwise Stage.Precedes) :
    stagesFrom met (accesses ++ rest) = stagesFrom (met ++ calls) rest := by
  induction accesses generalizing met calls with
  | nil =>
    obtain rfl : calls = [] := by simpa [Spells] using h.symm
    simp
  | cons a accesses ih =>
    cases calls with
    | nil => cases h
    | cons c calls =>
      obtain ⟨ha, htail⟩ := List.cons.inj h
      obtain ⟨hname, hcall⟩ := Prod.mk.inj ha
      rw [List.append_cons] at hpairs ⊢
      have hfirst : ((met ++ [c]).map (·.1)).Pairwise Stage.Precedes :=
        (List.pairwise_append.mp (List.map_append ▸ hpairs)).1
      have hmet := (List.pairwise_append.mp (List.map_append ▸ hfirst)).1
      rw [List.cons_append, stagesFrom]
      simp only [hname, hcall, Stage.ofName?_name, (pairwise_concat_iff hmet c.2).mp hfirst, if_true]
      exact ih htail hpairs

theorem stagesOf_of_spells {calls : List (Stage × Application)} {accesses : List Access}
    (h : Spells calls accesses) (hpairs : (calls.map (·.1)).Pairwise Stage.Precedes) :
    stagesOf accesses = ⟨calls, none⟩ := by
  have hwhole : stagesFrom [] (accesses ++ []) = stagesFrom ([] ++ calls) [] :=
    stagesFrom_append h hpairs
  rwa [List.append_nil] at hwhole

theorem stagesOf_of_first {calls : List (Stage × Application)} {before : List Access} {a : Access}
    (h : Spells calls before) (hpairs : (calls.map (·.1)).Pairwise Stage.Precedes)
    (ha : ¬ Accepted (before ++ [a])) (after : List Access) :
    ∃ p, stagesOf (before ++ a :: after) = ⟨calls, some ⟨p, a.name⟩⟩ := by
  rw [stagesOf, stagesFrom_append h (by simpa using hpairs), List.nil_append, stagesFrom]
  cases hcall : a.call? with
  | none => exact ⟨_, rfl⟩
  | some call =>
    cases hs : Stage.ofName? a.name with
    | none => exact ⟨_, rfl⟩
    | some s =>
      have hfollow : mayFollow calls s = false := by
        rw [← Bool.not_eq_true, ← pairwise_concat_iff hpairs call]
        intro hconcat
        refine ha (accepted_iff.mpr ⟨_, ?_, hconcat⟩)
        rw [Spells, List.map_append, List.map_append, h, List.map_singleton, List.map_singleton, hcall,
          Stage.eq_name_of_ofName? hs]
      simp only [hfollow]
      exact ⟨_, rfl⟩

theorem exists_first {accesses : List Access} (h : ¬ Accepted accesses) :
    ∃ before a after, accesses = before ++ a :: after ∧ Accepted before ∧
      ¬ Accepted (before ++ [a]) := by
  induction accesses using List.reverseRecOn with
  | nil => exact absurd accepted_nil h
  | append_singleton before a ih =>
    by_cases hbefore : Accepted before
    · exact ⟨before, a, [], rfl, hbefore, h⟩
    · obtain ⟨first, b, after, rfl, hfirst, hb⟩ := ih hbefore
      exact ⟨first, b, after ++ [a], by simp, hfirst, hb⟩

/-! What is known of a chain. -/

@[simp] theorem Root.stages_analyze (r : Resolver) (kind : Kind) (root : Root) :
    (root.analyze r kind).stages = stagesOf root.outward := by
  unfold analyze
  dsimp only
  split <;> rfl

theorem Root.analyze_of_break {r : Resolver} {kind : Kind} {root : Root}
    {calls : List (Stage × Application)} {b : Break} (h : stagesOf root.outward = ⟨calls, some b⟩) :
    root.analyze r kind =
      { position := root.position, kind, stages := ⟨calls, some b⟩,
        issues := [⟨b.position, .stage b.name⟩] } := by
  unfold analyze
  simp only [h]

theorem Analysis.definition?_of_isBroken {a : Analysis} (h : a.isBroken = true) (file : String) :
    a.definition? file = none := by
  unfold definition?
  split
  · rfl
  · rw [h]
    rfl

def Root.expr (root : Root) : Expr := .call root.position root.callee root.arguments root.keywords

@[simp] theorem Root.ofNode?_eq_some_iff {n : Node} {root : Root} :
    Root.ofNode? n = some root ↔ n = ⟨root.site, root.expr, root.outward⟩ := by
  obtain ⟨s, e, outward⟩ := n
  constructor
  · intro h
    unfold ofNode? at h
    split at h
    · rename_i heq
      cases h
      cases heq
      rfl
    · cases h
  · rintro h
    cases h
    rfl

theorem mem_analyses_iff {r : Resolver} {modules : List String} {m : Module} {a : Analysis} :
    a ∈ analyses r modules m ↔ ∃ (root : Root) (kind : Kind),
      m.Holds ⟨root.site, accessed root.expr root.outward⟩ ∧
      calledKind? r modules ⟨root.site, root.callee⟩ = some kind ∧ a = root.analyze r kind := by
  rw [analyses, List.mem_filterMap]
  constructor
  · rintro ⟨n, hn, hread⟩
    obtain ⟨root, hroot, hrest⟩ := Option.bind_eq_some_iff.mp hread
    obtain ⟨kind, hkind, ha⟩ := Option.bind_eq_some_iff.mp hrest
    rw [Root.ofNode?_eq_some_iff.mp hroot] at hn
    exact ⟨root, kind, (Module.mem_nodes_iff rfl).mp hn, hkind, (Option.some.inj ha).symm⟩
  · rintro ⟨root, kind, hholds, hkind, rfl⟩
    refine ⟨⟨root.site, root.expr, root.outward⟩, (Module.mem_nodes_iff rfl).mpr hholds, ?_⟩
    rw [analysis?, Root.ofNode?_eq_some_iff.mpr rfl]
    simp [hkind]

/-- What is known of a chain that breaks at an access behind some others: these and the name of the
access, and no definition. -/
structure BrokenAt (a : Analysis) (before : List Access) (access : Access) : Prop where
  isBroken : a.isBroken = true
  stages : Spells a.stages.calls before
  issues : ∃ p, a.issues = [⟨p, .stage access.name⟩]
  undefined : ∀ file, a.definition? file = none

theorem Root.brokenAt (r : Resolver) (kind : Kind) {root : Root} {before after : List Access}
    {access : Access} (h : root.outward = before ++ access :: after) (hbefore : Accepted before)
    (haccess : ¬ Accepted (before ++ [access])) : BrokenAt (root.analyze r kind) before access := by
  obtain ⟨calls, hspells, hpairs⟩ := accepted_iff.mp hbefore
  obtain ⟨p, hp⟩ := stagesOf_of_first hspells hpairs haccess after
  rw [analyze_of_break (h ▸ hp)]
  exact ⟨rfl, hspells, ⟨p, rfl⟩, Analysis.definition?_of_isBroken rfl⟩

theorem Root.spells_of_accepted (r : Resolver) (kind : Kind) {root : Root}
    (h : Accepted root.outward) : (root.analyze r kind).isBroken = false ∧
      Spells (root.analyze r kind).stages.calls root.outward := by
  obtain ⟨calls, hspells, hpairs⟩ := accepted_iff.mp h
  rw [Analysis.isBroken, root.stages_analyze, stagesOf_of_spells hspells hpairs]
  exact ⟨rfl, hspells⟩

/-- A chain is not broken exactly if its accesses are accepted, and then all of them are its stages;
otherwise it breaks at the first one with which they are not. The chains of a module are those of the
calls in it, each with the accesses with which it stands on its own, and no others. -/
theorem chains_accepted (r : Resolver) :
    (∀ (kind : Kind) (root : Root),
      ((root.analyze r kind).isBroken = false ↔ Accepted root.outward) ∧
      (Accepted root.outward → Spells (root.analyze r kind).stages.calls root.outward) ∧
      (¬ Accepted root.outward → ∃ before access after, root.outward = before ++ access :: after ∧
        (∀ shorter, shorter <+: before → Accepted shorter) ∧ ¬ Accepted (before ++ [access]) ∧
        BrokenAt (root.analyze r kind) before access)) ∧
    ∀ (modules : List String) (m : Module) (a : Analysis), a ∈ analyses r modules m ↔
      ∃ (root : Root) (kind : Kind), m.Holds ⟨root.site, accessed root.expr root.outward⟩ ∧
        calledKind? r modules ⟨root.site, root.callee⟩ = some kind ∧ a = root.analyze r kind := by
  refine ⟨fun kind root => ?_, fun _ _ _ => mem_analyses_iff⟩
  have hbroken (h : ¬ Accepted root.outward) : ∃ before access after,
      root.outward = before ++ access :: after ∧ (∀ shorter, shorter <+: before → Accepted shorter) ∧
        ¬ Accepted (before ++ [access]) ∧ BrokenAt (root.analyze r kind) before access := by
    obtain ⟨before, access, after, houtward, hbefore, haccess⟩ := exists_first h
    refine ⟨before, access, after, houtward, ?_, haccess, root.brokenAt r kind houtward hbefore haccess⟩
    rintro shorter ⟨rest, rfl⟩
    exact hbefore.of_append
  refine ⟨⟨fun hwhole => ?_, fun h => (root.spells_of_accepted r kind h).1⟩,
    fun h => (root.spells_of_accepted r kind h).2, hbroken⟩
  by_contra h
  obtain ⟨before, access, after, -, -, -, hat⟩ := hbroken h
  exact Bool.false_ne_true (hwhole.symm.trans hat.isBroken)

def importedBuilders : Resolver where
  infer? _ := none
  ancestors _ := []
  lookup s id := [⟨id, s, 1, .member (some "builders") 0 id⟩]

def sampleAccess (name : String) (arguments : List Expr) : Access :=
  ⟨name, ⟨1, 0⟩, some ⟨⟨1, 0⟩, arguments, []⟩⟩

def sampleChain (site : Site) (builder : String) (outward : List Access) : Root where
  site := site
  position := ⟨1, 0⟩
  callee := .name ⟨1, 0⟩ builder
  arguments := [.constant ⟨1, 13⟩ (.text "a user")]
  keywords := []
  outward := outward

def innerChain (site : Site) : Root := sampleChain site "WhenBuilder" [sampleAccess "register" []]

/-- A chain with another one in the place of its body, and its dependencies behind that. -/
def outerChain (site : Site) : Root :=
  sampleChain site "GivenBuilder"
    [sampleAccess "step" [accessed (innerChain site).expr (innerChain site).outward],
      sampleAccess "dependencies" []]

def nestedChains : Module where
  name := "steps"
  isPackage := false
  body := [.expr ⟨1, 0⟩ (accessed (outerChain default).expr (outerChain default).outward)]

def nestedSite : Site := (Site.ofModule nestedChains).inner .whole ⟨1, 0⟩ 1

theorem chains_accepted_nestedChains :
    let outer := (outerChain nestedSite).analyze importedBuilders .given
    let inner := (innerChain nestedSite).analyze importedBuilders .when
    (outer ∈ analyses importedBuilders ["builders"] nestedChains ∧
      ∃ before access after, (outerChain nestedSite).outward = before ++ access :: after ∧
        BrokenAt outer before access) ∧
    inner ∈ analyses importedBuilders ["builders"] nestedChains ∧
      Spells inner.stages.calls [sampleAccess "register" []] := by
  intro outer inner
  obtain ⟨hgrammar, hmodules⟩ := chains_accepted importedBuilders
  obtain ⟨houteriff, -, houterbroken⟩ := hgrammar .given (outerChain nestedSite)
  obtain ⟨hinneriff, hinnerstages, -⟩ := hgrammar .when (innerChain nestedSite)
  obtain ⟨before, access, after, houtward, -, -, hat⟩ :=
    houterbroken fun h => absurd (houteriff.mpr h) (by decide)
  exact ⟨⟨(hmodules _ _ _).mpr
        ⟨outerChain nestedSite, .given, ⟨_, .head _, .whole⟩, by decide +kernel, rfl⟩,
      before, access, after, houtward, hat⟩,
    (hmodules _ _ _).mpr ⟨innerChain nestedSite, .when,
      ⟨_, .head _, .part [sampleAccess "dependencies" []] .whole (.head _)⟩,
      by decide +kernel, rfl⟩,
    hinnerstages (hinneriff.mp (by decide))⟩

end ScenarioCheck.Chain
