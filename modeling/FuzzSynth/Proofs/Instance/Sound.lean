/-
Instances are what their declaration says.

`Replaced pairs t u` says that `u` is `t` with every parameter replaced by the type that
is paired with its name, all at once: nothing inside a type that was put in is looked at
again.  `Instance.IsSound` puts together what an instance of a declared function has to be
for a pool of candidates, and `Pool.isSound_of_mem_instances` says that every instance is
that, whatever the declaration, the history of the pool and the caps.

A candidate may have been offered as a tree that no text gives, so of the types in a pool
it is known only that no node stands for a parameter (`Reachable.isGeneric_eq_false`).
-/
import Mathlib
import FuzzSynth.Proofs.Instance.Outcome

namespace FuzzSynth

/-! ## Simultaneous replacement -/

namespace Ty

/-- The second type is the first one with each parameter replaced by the type of the
candidate that is paired with it. -/
inductive Replaced (pairs : List (GenericParam × Candidate)) : Ty → Ty → Prop
  | param {p : GenericParam} {c : Candidate} (h : (p, c) ∈ pairs) :
      Replaced pairs (param p.name) c.type
  | node {f : Former} {as bs : List Ty} (h : List.Forall₂ (Replaced pairs) as bs) :
      Replaced pairs (node f false as) (node f false bs)

theorem Replaced.exists_pair {pairs : List (GenericParam × Candidate)} {t u : Ty}
    (h : Replaced pairs t u) (hparam : t.isParam = true) :
    ∃ p c, (p, c) ∈ pairs ∧ t = Ty.param p.name ∧ u = c.type := by
  cases h with
  | param hpair => exact ⟨_, _, hpair, rfl, rfl⟩
  | node => cases hparam

mutual

/-- A name that is paired once stands for one type, so there is one replacement at most. -/
theorem Replaced.unique {pairs : List (GenericParam × Candidate)}
    (hpairs : (pairs.map fun pair => pair.1.name).Nodup) :
    (t u v : Ty) → Replaced pairs t u → Replaced pairs t v → u = v
  | Ty.node f true as, u, v, hu, hv => by
      obtain ⟨p, c, hp, ht, rfl⟩ := hu.exists_pair rfl
      obtain ⟨q, d, hq, ht', rfl⟩ := hv.exists_pair rfl
      have hname : p.name = q.name := by simpa using ht.symm.trans ht'
      rw [(Prod.mk.inj (List.inj_on_of_nodup_map hpairs hp hq hname)).2]
  | Ty.node f false as, u, v, hu, hv => by
      cases hu with
      | node hbs =>
          cases hv with
          | node hcs => rw [Replaced.unique_all hpairs as _ _ hbs hcs]

theorem Replaced.unique_all {pairs : List (GenericParam × Candidate)}
    (hpairs : (pairs.map fun pair => pair.1.name).Nodup) :
    (as bs cs : List Ty) → List.Forall₂ (Replaced pairs) as bs →
      List.Forall₂ (Replaced pairs) as cs → bs = cs
  | [], bs, cs, hbs, hcs => by
      rw [List.forall₂_nil_left_iff.mp hbs, List.forall₂_nil_left_iff.mp hcs]
  | a :: as, bs, cs, hbs, hcs => by
      obtain ⟨b, bs', hb, hbs', rfl⟩ := List.forall₂_cons_left_iff.mp hbs
      obtain ⟨c, cs', hc, hcs', rfl⟩ := List.forall₂_cons_left_iff.mp hcs
      rw [Replaced.unique hpairs a b c hb hc, Replaced.unique_all hpairs as bs' cs' hbs' hcs']

end

/-- Replacing every parameter in scope by a type without parameters leaves none. -/
theorem Over.isGeneric_subst {params : List String} {fill : String → Option Ty} {t : Ty}
    (h : Over params t)
    (hfill : ∀ name ∈ params, ∃ u, fill name = some u ∧ u.isGeneric = false) :
    (t.subst fill).isGeneric = false := by
  induction h with
  | @param name hname =>
      obtain ⟨u, hu, hgeneric⟩ := hfill name hname
      simpa [Ty.subst, Former.label, hu] using hgeneric
  | ref _ ih | refMut _ ih | slice _ ih | array _ ih =>
      simpa [Ty.subst, substAll, isGeneric, anyGeneric] using ih
  | tuple _ ih | named _ ih =>
      simpa [Ty.subst, substAll_eq, isGeneric, anyGeneric_eq] using ih

/-- Looking parameters up by their names replaces them at once. -/
theorem Over.replaced_subst {pairs : List (GenericParam × Candidate)} {fill : String → Option Ty}
    {params : List String} {t : Ty} (h : Over params t)
    (hfill : ∀ name ∈ params, ∃ p c, (p, c) ∈ pairs ∧ p.name = name ∧ fill name = some c.type) :
    Replaced pairs t (t.subst fill) := by
  have hargs : ∀ args : List Ty, (∀ a ∈ args, Replaced pairs a (a.subst fill)) →
      List.Forall₂ (Replaced pairs) args (substAll fill args) := by
    intro args hargs
    rw [substAll_eq, List.forall₂_map_right_iff]
    exact List.forall₂_same.mpr hargs
  induction h with
  | @param name hname =>
      obtain ⟨p, c, hpair, rfl, hc⟩ := hfill name hname
      rw [Ty.subst, Former.label, hc, Option.getD_some]
      exact .param hpair
  | ref _ ih | refMut _ ih | slice _ ih | array _ ih =>
      exact .node (hargs _ (by simpa using ih))
  | tuple _ ih | named _ ih => exact .node (hargs _ ih)

end Ty

/-! ## Pools -/

namespace Pool

/-- The pools that facts and later registrations lead to. -/
inductive Reachable : Pool → Prop
  | ofFacts (facts : List CandidateFact) (builtins : Bool) : Reachable (ofFacts facts builtins).pool
  | register {pool next : Pool} {type : Ty} {bounds : BoundSet} (h : Reachable pool)
      (hregister : pool.register type bounds = .ok next) : Reachable next
  | registerText {pool next : Pool} {text : String} {bounds : BoundSet} (h : Reachable pool)
      (hregister : pool.registerText text bounds = .ok next) : Reachable next

variable {pool next : Pool}

theorem isGeneric_of_register {type : Ty} {bounds : BoundSet}
    (h : ∀ c ∈ pool.entries, c.type.isGeneric = false)
    (hregister : pool.register type bounds = .ok next) :
    ∀ c ∈ next.entries, c.type.isGeneric = false := by
  obtain ⟨htype, rfl⟩ := register_eq_ok_iff.mp hregister
  intro c hc
  -- the candidate is the one that was placed, or it was there before
  rcases mem_placeCandidate hc with rfl | hc
  · exact htype
  · exact h c hc

/-- No candidate of a pool has a parameter, whatever was offered to it. -/
theorem Reachable.isGeneric_eq_false (h : pool.Reachable) :
    ∀ c ∈ pool.entries, c.type.isGeneric = false := by
  induction h with
  | ofFacts facts builtins =>
      intro c hc
      exact (isConcrete_ofFacts facts builtins c hc).isGeneric_eq_false
  | register _ hregister ih => exact isGeneric_of_register ih hregister
  | registerText _ hregister ih =>
      obtain ⟨type, -, hregister⟩ := registerText_eq_ok_iff.mp hregister
      exact isGeneric_of_register ih hregister

end Pool

/-! ## Sound instances -/

/-- What an instance of the declared function is.  The declared type parameters, each of them
once and in order of position, are paired with candidates of the pool that satisfy their
bounds.  No parameter is left: inputs and output are the declared ones with every parameter
replaced by what it is paired with. -/
structure Instance.IsSound (m : Instance) (fact : ApiFact) (pool : Pool) : Prop where
  generics : m.signature.generics = []
  concrete : ∀ t ∈ m.signature.types, ∀ n ∈ t.nodes, n.isParam = false
  names_nodup : (m.substitution.pairs.map fun pair => pair.1.name).Nodup
  resolves : m.substitution.Resolves pool fact.params
  inputs : List.Forall₂ (fun declared input => input.1 = declared.name ∧
    ∃ t, Ty.parse fact.paramNames declared.type = .ok t ∧
      ∀ u, t.Replaced m.substitution.pairs u ↔ u = input.2) fact.inputs m.inputs
  output : ∃ t, fact.readOutput = .ok t ∧ ∀ u, t.Replaced m.substitution.pairs u ↔ u = m.output

/-- Every instance of a function that a fact declares is sound, with the candidates of any pool
that facts and registrations lead to and under any caps. -/
theorem Pool.isSound_of_mem_instances {fact : ApiFact} {api : Signature} {pool : Pool}
    {limits : InstanceLimits} {part : Instantiation} (hsignature : fact.signature = .ok api)
    (hpool : pool.Reachable) (h : pool.instantiate limits api = .ok part) :
    ∀ m ∈ part.instances, m.IsSound fact pool := by
  intro m hm
  obtain ⟨σ, hσ, rfl⟩ := exists_resolves_of_instantiate h m hm
  have hnames := ApiFact.nodup_paramNames hsignature
  have hscoped := ApiFact.isScoped_of_signature hsignature
  obtain ⟨inputs, output, hinputs, houtput, rfl⟩ := ApiFact.signature_eq_ok hsignature
  have hσ : σ.Resolves pool fact.params := hσ
  rw [← fact.map_name_params, ← hσ.params_eq, List.map_map] at hnames
  -- a declared type has one replacement, and that is what the instance has
  have hreplaced : ∀ t : Ty, t.Over fact.paramNames →
      ∀ u, t.Replaced σ.pairs u ↔ u = t.subst σ.typeFor := by
    intro t ht u
    rw [← fact.map_name_params] at ht
    have hsubst := ht.replaced_subst fun name hname => hσ.exists_typeFor hname
    exact ⟨fun hu => Ty.Replaced.unique hnames t _ _ hu hsubst, fun hu => hu ▸ hsubst⟩
  constructor
  case generics => rfl
  case concrete =>
    intro t ht
    rw [← Ty.isGeneric_eq_false_iff]
    have ht : t ∈ (Signature.subst ⟨fact.path, fact.params, inputs, output⟩ σ).types := ht
    rw [Signature.types_subst] at ht
    obtain ⟨declared, hdeclared, rfl⟩ := List.mem_map.mp ht
    refine (hscoped declared hdeclared).isGeneric_subst fun name hname => ?_
    obtain ⟨p, c, hpair, -, hc⟩ := hσ.exists_typeFor hname
    exact ⟨c.type, hc, hpool.isGeneric_eq_false c (hσ.registered _ hpair)⟩
  case names_nodup => exact hnames
  case resolves => exact hσ
  case inputs =>
    show List.Forall₂ _ fact.inputs (inputs.map fun input => (input.1, input.2.subst σ.typeFor))
    rw [List.forall₂_map_right_iff]
    refine (Ty.mapM_eq_ok_iff_forall₂.mp hinputs).imp fun declared input hread => ?_
    obtain ⟨hname, hparse⟩ := ApiFact.parse_of_readInput hread
    exact ⟨hname, input.2, hparse, hreplaced _ (Ty.over_of_parse hparse)⟩
  case output => exact ⟨output, houtput, hreplaced _ (ApiFact.over_of_readOutput houtput)⟩

/-! ### A small case -/

/-- `choose<T: Clone, U>(first: T, rest: Vec<U>) -> T`. -/
def chooseFact : ApiFact :=
  ⟨"choose", [⟨"T", ["Clone"]⟩, ⟨"'a", []⟩, ⟨"U", ["?Sized"]⟩],
    [⟨"first", "T"⟩, ⟨"rest", "Vec<'a, U>"⟩], some "T"⟩

def chooseApi : Signature :=
  ⟨"choose", [⟨"T", 0, .of ["Clone"], "choose"⟩, ⟨"U", 1, .of ["?Sized"], "choose"⟩],
    [("first", .param "T"), ("rest", .named "Vec" [.param "U"])], .param "T"⟩

/-- A pool in which a candidate has the name of a parameter. -/
def namesakePool : Pool :=
  (Pool.ofFacts [⟨"U", ["Copy"]⟩] false).pool.place (.offering (.named "i32" []) .empty)

/-- The candidate `U` is put in for `T` and stays, although `i32` is put in for `U`. -/
theorem Pool.isSound_of_mem_instances_choose :
    ∃ part, chooseFact.signature = .ok chooseApi ∧ namesakePool.Reachable ∧
      namesakePool.instantiate ⟨3, 5, 4096⟩ chooseApi = .ok part ∧
      part.instances.map Instance.inputTypes =
        [[.named "U" [], .named "Vec" [.named "i32" []]],
          [.named "U" [], .named "Vec" [.named "U" []]]] ∧
      ∀ m ∈ part.instances, m.IsSound chooseFact namesakePool := by
  have hsignature : chooseFact.signature = .ok chooseApi := by cbv
  have hregister : (Pool.ofFacts [⟨"U", ["Copy"]⟩] false).pool.register (.named "i32" []) .empty =
      .ok namesakePool := rfl
  have hreachable : namesakePool.Reachable := .register (.ofFacts _ _) hregister
  have hgeneric : chooseApi.isGeneric = true := rfl
  have hsize : windowSize 4096 = .ok 4096 := by decide +kernel
  have htypes : (namesakePool.instantiate ⟨3, 5, 4096⟩ chooseApi).map
      (fun part => part.instances.map Instance.inputTypes) =
        .ok [[.named "U" [], .named "Vec" [.named "i32" []]],
          [.named "U" [], .named "Vec" [.named "U" []]]] := by
    rw [Pool.instantiate, if_pos hgeneric, hsize]
    cbv
  obtain ⟨part, hpart, htypes⟩ := Ty.map_eq_ok_iff.mp htypes
  exact ⟨part, hsignature, hreachable, hpart, htypes,
    Pool.isSound_of_mem_instances hsignature hreachable hpart⟩

end FuzzSynth
