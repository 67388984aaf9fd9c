import ScenarioCheck.Chain.Builder

/-! Imports that count levels upward from their module, and the calls that start a chain through one.
As long as the levels stay within the package they lead where they say, and far above its top nothing
of the package is left. Just above the top they lead back into it, by as many components as a count
from its other end leaves. -/
namespace ScenarioCheck.Chain

open Source Scope Step

/-- The components of the package that a module belongs to; a package belongs to itself. -/
def packageOf (home : Module) : List String :=
  if home.isPackage then ModuleName.components home.name
  else (ModuleName.components home.name).dropLast

/-- The package that a number of dots stands for: the first one stands for the module's own, and each
further one goes a level up. Above the top there is none. -/
def packageAbove (home : Module) (level : Nat) : List String :=
  (packageOf home).take ((packageOf home).length - (level - 1))

def dotted (package : List String) (module : String) : String :=
  ".".intercalate (package ++ if module.isEmpty then [] else [module])

/-- The levels lead above the top, and by less than the package is deep. -/
def Overshoots (home : Module) (level : Nat) : Prop :=
  (packageOf home).length < level - 1 ∧ level - 1 < 2 * (packageOf home).length

instance (home : Module) (level : Nat) : Decidable (Overshoots home level) :=
  inferInstanceAs (Decidable (_ ∧ _))

def IsNamed (home : Module) : Prop := ∀ c ∈ ModuleName.components home.name, c ≠ ""

instance (home : Module) : Decidable (IsNamed home) := List.decidableBAll _ _

/-- The number of components of the package that are kept. -/
def keptCount (home : Module) (level : Nat) : Nat :=
  if level - 1 ≤ (packageOf home).length then (packageOf home).length - (level - 1)
  else 2 * (packageOf home).length - (level - 1)

@[simp] theorem leading_length_sub (parts : List String) (n : Nat) :
    leading parts (parts.length - n) =
      parts.take (if n ≤ parts.length then parts.length - n else 2 * parts.length - n) := by
  unfold leading
  split
  · rw [if_neg (by omega)]
    congr 1
    omega
  · rw [if_pos (by omega)]
    congr 1
    omega

section Kept

variable {home : Module} (h : IsNamed home)
include h

theorem ne_empty_of_mem_packageOf {c : String} (hc : c ∈ packageOf home) : c ≠ "" := by
  unfold packageOf at hc
  split at hc
  · exact h c hc
  · exact h c (List.dropLast_subset _ hc)

@[simp] theorem filter_take_packageOf (n : Nat) :
    ((packageOf home).take n).filter (· != "") = (packageOf home).take n := by
  rw [List.filter_eq_self]
  intro c hc
  simpa using ne_empty_of_mem_packageOf h (List.mem_of_mem_take hc)

theorem relativeModule_eq (level : Nat) (module : String) :
    relativeModule home level module =
      dotted ((packageOf home).take (keptCount home level)) module := by
  have hkept : (if level > 1 then
      leading (packageOf home) ((packageOf home).length - (level - 1 : Nat)) else packageOf home) =
        (packageOf home).take (keptCount home level) := by
    unfold keptCount
    split
    · exact leading_length_sub _ _
    · rw [if_pos (by omega), List.take_of_length_le (by omega)]
  unfold relativeModule
  dsimp only
  rw [← packageOf, hkept, filter_take_packageOf h]
  rfl

end Kept

theorem length_le_intercalate {t : String} {texts : List String} (h : t ∈ texts) :
    t.length ≤ (".".intercalate texts).length := by
  induction texts with
  | nil => cases h
  | cons s texts ih =>
    cases texts with
    | nil => exact (List.mem_singleton.mp h) ▸ Nat.le_refl _
    | cons s' texts =>
      rw [String.intercalate_cons_cons, String.length_append, String.length_append]
      rcases List.mem_cons.mp h with rfl | h
      · omega
      · have := ih h
        omega

@[simp] theorem dotted_nil (module : String) : dotted [] module = module := by
  unfold dotted
  split
  · rename_i hempty
    exact (String.isEmpty_iff.mp hempty).symm
  · simp

theorem length_lt_length_dotted {c : String} (hc : c ≠ "") (package : List String)
    (module : String) : module.length < (dotted (c :: package) module).length := by
  unfold dotted
  split
  · rename_i hempty
    have hlength := length_le_intercalate (.head (package ++ []) : c ∈ c :: package ++ [])
    have hpos : 0 < c.length := Nat.pos_of_ne_zero (mt String.length_eq_zero_iff.mp hc)
    rw [String.isEmpty_iff.mp hempty, String.length_empty]
    omega
  · obtain ⟨s, rest, hrest⟩ : ∃ s rest, package ++ [module] = s :: rest :=
      List.exists_cons_of_ne_nil (by simp)
    have hlength := length_le_intercalate (hrest ▸ by simp : module ∈ s :: rest)
    rw [List.cons_append, hrest, String.intercalate_cons_cons, String.length_append,
      String.length_append]
    have hdot : ".".length = 1 := rfl
    omega

theorem relativeModule_eq_iff {home : Module} (h : IsNamed home) (level : Nat) (module : String) :
    relativeModule home level module = dotted (packageAbove home level) module ↔
      ¬ Overshoots home level := by
  rw [relativeModule_eq h, packageAbove, keptCount]
  constructor
  · rintro heq ⟨habove, hbelow⟩
    rw [if_neg (by omega), show (packageOf home).length - (level - 1) = 0 by omega,
      List.take_zero] at heq
    obtain ⟨c, package, hpackage⟩ : ∃ c package, packageOf home = c :: package :=
      List.exists_cons_of_length_pos (by omega)
    have hc : c ≠ "" := ne_empty_of_mem_packageOf h (by simp [hpackage])
    obtain ⟨n, hn⟩ : ∃ n, 2 * (packageOf home).length - (level - 1) = n + 1 :=
      ⟨_, (Nat.sub_add_cancel (by omega)).symm⟩
    rw [hn, hpackage, List.take_succ_cons] at heq
    have hlength := length_lt_length_dotted hc (package.take n) module
    rw [heq, dotted_nil] at hlength
    omega
  · intro ho
    unfold Overshoots at ho
    split
    · rfl
    · congr 2
      omega

/-! Names that are imported. -/

/-- A name that an import statement takes from a module; without dots the module is written in full. -/
structure Import where
  home : Module
  level : Nat
  module : String
  name : String

def Import.source (i : Import) : String :=
  if i.level = 0 then i.module else relativeModule i.home i.level i.module

/-- A name is bound by an import, by a plain import of the module that it is taken from, or by the
assignment of another such name. -/
inductive BoundBy (r : Resolver) : Located Expr → Import → Prop
  | member {site p id b module? level real} (hb : b ∈ r.lookup site id)
      (h : (speaker (r.lookup site id) b).origin = .member module? level real) :
      BoundBy r ⟨site, .name p id⟩
        ⟨b.site.home, level, module?.getD "", if real == "*" then id else real⟩
  | attribute {site p q owner name module}
      (h : importedModule? (r.lookup site owner) = some module) :
      BoundBy r ⟨site, .attribute p (.name q owner) name⟩ ⟨site.home, 0, module, name⟩
  | assigned {site p id b value i} (hb : b ∈ r.lookup site id)
      (h : (speaker (r.lookup site id) b).origin = .value value [])
      (hvalue : BoundBy r ⟨b.site, value⟩ i) : BoundBy r ⟨site, .name p id⟩ i

theorem originFrom_cases {r : Resolver} {fuel : Nat} {e : Located Expr} {o : Origin}
    (h : originFrom r fuel e = some o) :
    (∃ i, BoundBy r e i ∧ o = ⟨i.source, i.name⟩) ∨
      ∃ n, ∃ b : Binding, ∃ value, fuel = n + 1 ∧ originFrom r n ⟨b.site, value⟩ = some o ∧
        ∀ i, BoundBy r ⟨b.site, value⟩ i → BoundBy r e i := by
  obtain ⟨site, value⟩ := e
  unfold originFrom at h
  dsimp only at h
  split at h
  · obtain ⟨module, hmodule, rfl⟩ := Option.map_eq_some_iff.mp h
    exact .inl ⟨_, .attribute hmodule, rfl⟩
  · rw [Option.join_eq_some_iff] at h
    obtain ⟨b, hb, hnext⟩ := List.exists_of_findSome?_eq_some h
    rw [List.mem_reverse] at hb
    split at hnext
    · rename_i hmember
      cases hnext
      exact .inl ⟨_, .member hb hmember, rfl⟩
    · rename_i value hvalue
      refine .inr ?_
      split at hnext
      case h_3 => cases hnext
      all_goals
        cases fuel with
        | zero => cases hnext
        | succ n => exact ⟨n, b, _, rfl, Option.some.inj hnext, fun _ hi => .assigned hb hvalue hi⟩
    · cases hnext
  · cases h

theorem exists_boundBy_of_originFrom {r : Resolver} {fuel : Nat} {e : Located Expr} {o : Origin}
    (h : originFrom r fuel e = some o) : ∃ i, BoundBy r e i ∧ o = ⟨i.source, i.name⟩ := by
  induction fuel generalizing e with
  | zero =>
    obtain hi | ⟨n, -, -, hn, -⟩ := originFrom_cases h
    · exact hi
    · cases hn
  | succ fuel ih =>
    obtain hi | ⟨n, b, value, hn, hnext, hbound⟩ := originFrom_cases h
    · exact hi
    · cases hn
      obtain ⟨i, hi, ho⟩ := ih hnext
      exact ⟨i, hbound i hi, ho⟩

theorem exists_boundBy_of_calledKind? {r : Resolver} {modules : List String} {callee : Located Expr}
    {kind : Kind} (hd : (r.infer? callee).bind definition? = none)
    (h : calledKind? r modules callee = some kind) :
    ∃ i, BoundBy r callee i ∧ builderKind? i.name = some kind ∧
      ModuleName.isWithin i.source modules = true := by
  unfold calledKind? at h
  rw [hd] at h
  have horigin : (origin? r callee).bind (fun o => kindOf? modules o.name o.module) = some kind := by
    split at h
    · exact h
    · exact h
    · cases h
  obtain ⟨o, ho, hkind⟩ := Option.bind_eq_some_iff.mp horigin
  obtain ⟨i, hi, rfl⟩ := exists_boundBy_of_originFrom ho
  obtain ⟨hname, hwithin⟩ := Option.filter_eq_some_iff.mp hkind
  exact ⟨i, hi, hname, hwithin⟩

@[simp] theorem isWithin_iff {name : String} {modules : List String} :
    ModuleName.isWithin name modules = true ↔
      ∃ m ∈ modules, name = m ∨ (m ++ ".").toList <+: name.toList := by
  simp [ModuleName.isWithin]

theorem isWithin_trans {name middle outer : String}
    (h : ModuleName.isWithin name [middle] = true) (h' : ModuleName.isWithin middle [outer] = true) :
    ModuleName.isWithin name [outer] = true := by
  rw [isWithin_iff] at *
  simp only [List.mem_singleton, exists_eq_left] at *
  rcases h with rfl | h
  · exact h'
  · rcases h' with rfl | h'
    · exact .inr h
    · refine .inr (h'.trans (List.IsPrefix.trans ?_ h))
      simp

theorem Import.source_of_above {i : Import} (h : IsNamed i.home)
    (habove : (packageOf i.home).length ≤ i.level - 1) (ho : ¬ Overshoots i.home i.level) :
    i.source = i.module := by
  unfold source
  split
  · rfl
  · rw [(relativeModule_eq_iff h _ _).mpr ho, packageAbove, Nat.sub_eq_zero_of_le habove,
      List.take_zero, dotted_nil]

/-- A relative import leads to the package that its levels stand for, and higher levels to no more of
it, unless they lead just above its top. An import from above the top keeps nothing of the package:
where it makes a call start a chain, no module of the package does, unless the import itself is
written with its name. -/
theorem relativeModule_resolves (r : Resolver) (modules : List String) :
    (∀ home, IsNamed home → ∀ level module,
      (relativeModule home level module = dotted (packageAbove home level) module ↔
        ¬ Overshoots home level) ∧
      ∀ above, level ≤ above → ¬ Overshoots home above → ∃ fewer more,
        fewer <+: more ∧ more <+: packageOf home ∧
        relativeModule home above module = dotted fewer module ∧
        relativeModule home level module = dotted more module) ∧
    ∀ callee kind, (r.infer? callee).bind definition? = none →
      calledKind? r modules callee = some kind →
      ∃ i, BoundBy r callee i ∧ builderKind? i.name = some kind ∧
        ModuleName.isWithin i.source modules = true ∧
        (IsNamed i.home → (packageOf i.home).length ≤ i.level - 1 → ¬ Overshoots i.home i.level →
          ∀ m ∈ modules, ModuleName.isWithin i.source [m] = true →
          ∀ package, ModuleName.isWithin m [package] = true →
            ModuleName.isWithin i.module [package] = true) := by
  refine ⟨fun home h level module => ⟨relativeModule_eq_iff h level module, ?_⟩, ?_⟩
  · intro above hle ho
    have hcount : keptCount home above ≤ keptCount home level := by
      unfold Overshoots at ho
      unfold keptCount
      split <;> split <;> omega
    exact ⟨_, _, List.take_prefix_take_left hcount, List.take_prefix _ _,
      relativeModule_eq h above module, relativeModule_eq h level module⟩
  · intro callee kind hd hkind
    obtain ⟨i, hi, hname, hwithin⟩ := exists_boundBy_of_calledKind? hd hkind
    refine ⟨i, hi, hname, hwithin, fun h habove ho m _ hm package hpackage => ?_⟩
    rw [Import.source_of_above h habove ho] at hm
    exact isWithin_trans hm hpackage

def sampleModule : Module := ⟨"shop.steps.cart", false, [], none⟩

def importing (level : Nat) : Resolver where
  infer? _ := none
  ancestors _ := []
  lookup _ id := [⟨id, .ofModule sampleModule, 1, .member (some "builders") level id⟩]

def sampleCallee : Located Expr := ⟨.ofModule sampleModule, .name ⟨2, 0⟩ "GivenBuilder"⟩

theorem eq_of_boundBy_importing {level : Nat} {i : Import}
    (h : BoundBy (importing level) sampleCallee i) :
    i = ⟨sampleModule, level, "builders", "GivenBuilder"⟩ := by
  cases h with
  | member hb h =>
    cases List.mem_singleton.mp hb
    cases h
    rfl
  | assigned hb h _ =>
    cases List.mem_singleton.mp hb
    cases h

theorem relativeModule_resolves_sampleModule :
    relativeModule sampleModule 2 "builders" = "shop.builders" ∧
      (∃ fewer more, fewer <+: more ∧ more <+: packageOf sampleModule ∧
        relativeModule sampleModule 5 "builders" = dotted fewer "builders" ∧
        relativeModule sampleModule 2 "builders" = dotted more "builders") ∧
      ∃ i, BoundBy (importing 5) sampleCallee i ∧ builderKind? i.name = some .given ∧
        ModuleName.isWithin i.source ["builders"] = true ∧
        ∀ package, ModuleName.isWithin "builders" [package] = true →
          ModuleName.isWithin i.module [package] = true := by
  obtain ⟨hmodules, hcalls⟩ := relativeModule_resolves (importing 5) ["builders"]
  obtain ⟨hiff, habove⟩ := hmodules sampleModule (by decide +kernel) 2 "builders"
  obtain ⟨i, hi, hname, hwithin, hpackage⟩ := hcalls sampleCallee .given rfl (by decide +kernel)
  refine ⟨(hiff.mpr (by decide +kernel)).trans (by decide +kernel),
    habove 5 (by decide) (by decide +kernel), i, hi, hname, hwithin, ?_⟩
  cases eq_of_boundBy_importing hi
  exact hpackage (by decide +kernel) (by decide +kernel) (by decide +kernel) "builders" (.head _)
    (by decide +kernel)

/-- Four dots lead above the package too, but back into it: a module of the package is found, and a
call starts a chain through it. -/
theorem relativeModule_returns_into_package :
    IsNamed sampleModule ∧ (packageOf sampleModule).length < 4 - 1 ∧
      relativeModule sampleModule 4 "builders" = "shop.builders" ∧
      dotted (packageAbove sampleModule 4) "builders" = "builders" ∧
      calledKind? (importing 4) ["shop.builders"] sampleCallee = some .given := by
  decide +kernel

end ScenarioCheck.Chain
