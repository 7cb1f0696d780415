/-
Bounds that other bounds imply.

The candidates of a pool have everything that their bounds imply, so it makes no difference
whether a parameter asks for implied bounds too.  A declaration that adds such bounds
(`ApiFact.AddsImplied`) has the same signature but for the bounds written in it, and a pool
gives the same candidates, substitutions and instances for both
(`Pool.instances_of_addsImplied`).  Two things are the same but for bounds when they are equal
once the bounds of all parameters are left out (`unbound`).
-/
import Mathlib
import FuzzSynth.Proofs.Instance.Outcome
import FuzzSynth.Proofs.Pool.History

namespace FuzzSynth

/-! ## Leaving bounds out -/

/-- The parameter without its bounds. -/
def GenericParam.unbound (p : GenericParam) : GenericParam :=
  { p with bounds := .empty }

/-- The choice of candidates, for parameters without bounds. -/
def Substitution.unbound (σ : Substitution) : Substitution :=
  ⟨σ.pairs.map fun pair => (pair.1.unbound, pair.2)⟩

/-- The function with no bounds on its parameters. -/
def Signature.unbound (api : Signature) : Signature :=
  { api with generics := api.generics.map GenericParam.unbound }

/-- The instance with no bounds in what is kept of the declaration. -/
def Instance.unbound (m : Instance) : Instance :=
  ⟨m.declaration.unbound, m.substitution.unbound, m.signature⟩

namespace Substitution

theorem typeFor_unbound (σ : Substitution) : σ.unbound.typeFor = σ.typeFor := by
  funext name
  rw [typeFor, typeFor, unbound, List.find?_map, Option.map_map]
  rfl

theorem types_unbound (σ : Substitution) : σ.unbound.types = σ.types := by
  rw [types, types, unbound, List.map_map]
  rfl

theorem coverage_unbound (σ : Substitution) : σ.unbound.coverage = σ.coverage := by
  rw [coverage, coverage, unbound, List.map_map]
  rfl

theorem unbound_ofLists (params : List GenericParam) (candidates : List Candidate) :
    (ofLists params candidates).unbound = ofLists (params.map GenericParam.unbound) candidates := by
  rw [unbound, ofLists, ofLists, List.zip_map_left]
  rfl

end Substitution

namespace Signature

theorem unbound_instanceOf (api : Signature) (σ : Substitution) :
    (api.instanceOf σ).unbound = api.unbound.instanceOf σ.unbound := by
  simp only [instanceOf, Instance.unbound, subst, Substitution.typeFor_unbound, unbound]

theorem isGeneric_unbound (api : Signature) : api.unbound.isGeneric = api.isGeneric := by
  simp [isGeneric, unbound]

end Signature

/-- Bounds play no part once the substitutions are there. -/
theorem Signature.instances_unbound (api : Signature) (limits : InstanceLimits)
    (window : List Substitution) :
    (api.unbound.instantiateFrom limits (window.map Substitution.unbound)).instances =
      (api.instantiateFrom limits window).instances.map Instance.unbound := by
  have htried : (window.map Substitution.unbound).map api.unbound.instanceOf =
      (window.map api.instanceOf).map Instance.unbound := by
    rw [List.map_map, List.map_map]
    exact List.map_congr_left fun σ _ => (api.unbound_instanceOf σ).symm
  -- the depth is that of the output type, where no bound stands
  exact instances_instantiateFrom_map htried (fun _ => rfl) (fun m => m.substitution.types_unbound)
    fun m => m.substitution.coverage_unbound

/-! ## Declarations with implied bounds -/

theorem map_eq_of_forall₂ {α β γ : Type} {f : α → γ} {g : β → γ} {xs : List α} {ys : List β}
    (h : List.Forall₂ (fun x y => g y = f x) xs ys) : ys.map g = xs.map f := by
  induction h with
  | nil => rfl
  | cons hxy _ ih => rw [List.map_cons, List.map_cons, hxy, ih]

/-- The same parameter with further bounds, all of them implied by the bounds it had. -/
structure GenericFact.AddsImplied (g further : GenericFact) : Prop where
  name : further.name = g.name
  kept : ∀ bound ∈ BoundSet.of g.bounds, bound ∈ BoundSet.of further.bounds
  implied : ∀ bound ∈ BoundSet.of further.bounds, (BoundSet.of g.bounds).Implies bound

/-- The same declaration with further bounds, each implied by the others of its parameter. -/
structure ApiFact.AddsImplied (fact further : ApiFact) : Prop where
  path : further.path = fact.path
  generics : List.Forall₂ GenericFact.AddsImplied fact.generics further.generics
  inputs : further.inputs = fact.inputs
  output : further.output = fact.output

namespace ApiFact.AddsImplied

variable {fact further : ApiFact}

theorem typeParams (h : fact.AddsImplied further) :
    List.Forall₂ GenericFact.AddsImplied fact.typeParams further.typeParams := by
  rw [ApiFact.typeParams, ApiFact.typeParams]
  refine List.rel_filter (fun g g' hg => ?_) h.generics
  simp only [hg.name]

theorem paramNames (h : fact.AddsImplied further) : further.paramNames = fact.paramNames := by
  rw [ApiFact.paramNames, ApiFact.paramNames]
  exact map_eq_of_forall₂ (h.typeParams.imp fun _ _ hg => hg.name)

/-- The parameters are the same but for bounds, and these differ by what is implied. -/
theorem params (h : fact.AddsImplied further) :
    List.Forall₂ (fun p q : GenericParam => q.unbound = p.unbound ∧ (∀ n ∈ p.bounds, n ∈ q.bounds) ∧
      ∀ n ∈ q.bounds, p.bounds.Implies n) fact.params further.params := by
  -- a parameter has its position, so the two lists are compared place by place
  rw [ApiFact.params, ApiFact.params, h.path, List.forall₂_iff_get]
  have hall := List.forall₂_iff_get.mp h.typeParams
  refine ⟨by simpa using hall.1, fun i hi hj => ?_⟩
  have hg := hall.2 i (by simpa using hi) (by simpa using hj)
  simp only [List.get_eq_getElem, List.getElem_mapIdx] at hg ⊢
  exact ⟨by rw [GenericParam.unbound, hg.name]; rfl, hg.kept, hg.implied⟩

/-- It is accepted or refused as before, with the same signature but for bounds. -/
theorem signature_eq (h : fact.AddsImplied further) :
    further.signature.map Signature.unbound = fact.signature.map Signature.unbound := by
  have hinputs : further.readInputs = fact.readInputs := by
    rw [readInputs, readInputs, h.paramNames, h.inputs]
  have houtput : further.readOutput = fact.readOutput := by
    rw [readOutput, readOutput, h.paramNames, h.output]
  have hduplicates : further.duplicateParams = fact.duplicateParams := by
    rw [duplicateParams, duplicateParams, h.paramNames]
  have hparams : further.params.map GenericParam.unbound = fact.params.map GenericParam.unbound :=
    map_eq_of_forall₂ (h.params.imp fun _ _ hp => hp.1)
  rw [signature, signature, hinputs, houtput, hduplicates, h.paramNames, h.path]
  split
  · rfl
  · cases fact.readInputs with
    | error e => rfl
    | ok inputs =>
        cases fact.readOutput with
        | error e => rfl
        | ok output =>
            -- which parameters the types refer to has nothing to do with bounds
            let unused := fact.paramNames.filter fun n =>
              !(Signature.referencedParams ⟨fact.path, fact.params, inputs, output⟩).contains n
            show Except.map _ (if unused ≠ [] then _ else _) = Except.map _ (if unused ≠ [] then _ else _)
            split
            · rfl
            · simp only [Except.map, Signature.unbound, hparams]

end ApiFact.AddsImplied

/-! ## Pools -/

namespace Pool

variable {pool : Pool} {api other : Signature}

/-- Every candidate has all that its bounds imply. -/
def IsClosed (pool : Pool) : Prop :=
  ∀ c ∈ pool.entries, c.bounds.IsClosed

theorem isClosed_of_records {offers : List (Ty × BoundSet)} (h : Records offers pool.entries) :
    pool.IsClosed := by
  intro c hc name hname parent hparent
  obtain ⟨b, -, hbounds⟩ := h.bounds c hc
  exact (hbounds parent).mpr (((hbounds name).mp hname).supertrait hparent)

/-- What is implied may be asked for or not. -/
theorem IsClosed.query_eq (h : pool.IsClosed) {b d : BoundSet} (hkept : ∀ n ∈ b, n ∈ d)
    (himplied : ∀ n ∈ d, b.Implies n) : pool.query d = pool.query b :=
  List.filter_congr fun c hc => (h c hc).isSatisfiedBy_eq hkept himplied

/-- The parameters are the same but for bounds, and the same candidates fit them. -/
def SameCandidates (pool : Pool) (params others : List GenericParam) : Prop :=
  List.Forall₂ (fun p q => q.unbound = p.unbound ∧ pool.query q.bounds = pool.query p.bounds)
    params others

theorem mapError_resolve {p q : GenericParam} (hparam : q.unbound = p.unbound)
    (hquery : pool.query q.bounds = pool.query p.bounds) :
    (pool.resolve q).mapError (fun u => u.param.unbound) =
      (pool.resolve p).mapError fun u => u.param.unbound := by
  rw [resolve, resolve, hquery]
  cases pool.query p.bounds with
  | nil => exact congrArg Except.error hparam
  | cons c rest => rfl

/-- The substitutions without bounds, or the parameter that has none. -/
def bareSubstitutions (found : Except Unsatisfiable (List Substitution)) :
    Except GenericParam (List Substitution) :=
  (found.mapError fun u => u.param.unbound).map (List.map Substitution.unbound)

theorem SameCandidates.unbound_eq (h : pool.SameCandidates api.generics other.generics) :
    other.generics.map GenericParam.unbound = api.generics.map GenericParam.unbound :=
  map_eq_of_forall₂ (h.imp fun _ _ hpq => hpq.1)

theorem SameCandidates.candidateLists_eq (h : pool.SameCandidates api.generics other.generics) :
    (pool.candidateLists other).mapError (fun u => u.param.unbound) =
      (pool.candidateLists api).mapError fun u => u.param.unbound := by
  -- the errors name parameters, which differ in their bounds, and so they are compared bare
  rw [candidateLists, candidateLists, Ty.mapError_mapM, Ty.mapError_mapM]
  exact congrArg (List.mapM id)
    (map_eq_of_forall₂ (h.imp fun _ _ hpq => mapError_resolve hpq.1 hpq.2))

theorem bareSubstitutions_substitutions (pool : Pool) (api : Signature) (n : Nat) :
    bareSubstitutions (pool.substitutions n api) =
      ((pool.candidateLists api).mapError fun u => u.param.unbound).map fun lists =>
        (firstChoices n lists).map (Substitution.ofLists (api.generics.map GenericParam.unbound)) := by
  rw [substitutions]
  cases pool.candidateLists api with
  | error u => rfl
  | ok lists =>
      refine congrArg Except.ok ?_
      rw [List.map_map]
      exact List.map_congr_left fun choice _ => Substitution.unbound_ofLists _ _

theorem SameCandidates.substitutions_eq (h : pool.SameCandidates api.generics other.generics)
    (n : Nat) : bareSubstitutions (pool.substitutions n other) =
      bareSubstitutions (pool.substitutions n api) := by
  rw [bareSubstitutions_substitutions, bareSubstitutions_substitutions, h.unbound_eq,
    h.candidateLists_eq]

theorem SameCandidates.window_eq (h : pool.SameCandidates api.generics other.generics)
    (n : Nat) : bareSubstitutions (pool.window n other) = bareSubstitutions (pool.window n api) := by
  rw [window, window]
  split
  · rfl
  · exact h.substitutions_eq n

/-- The instances without bounds; none where no candidate fits a parameter. -/
theorem map_instances_instantiate (pool : Pool) (limits : InstanceLimits) (api : Signature) :
    (pool.instantiate limits api).map (fun part => part.instances.map Instance.unbound) =
      if api.unbound.isGeneric then
        (windowSize limits.maxProductScan).map fun size =>
          match bareSubstitutions (pool.window size api) with
          | .error _ => []
          | .ok window => (api.unbound.instantiateFrom limits window).instances
      else .ok [api.unbound.instanceOf .empty] := by
  rw [instantiate, api.isGeneric_unbound]
  cases api.isGeneric with
  | false => exact congrArg (fun m => Except.ok [m]) (api.unbound_instanceOf .empty)
  | true =>
      cases windowSize limits.maxProductScan with
      | error e => rfl
      | ok size =>
          simp only [if_true, Except.map]
          cases pool.window size api with
          | error u => rfl
          | ok window => exact congrArg Except.ok (api.instances_unbound limits window).symm

theorem SameCandidates.instances_eq (h : pool.SameCandidates api.generics other.generics)
    (hunbound : other.unbound = api.unbound) (limits : InstanceLimits) :
    (pool.instantiate limits other).map (fun part => part.instances.map Instance.unbound) =
      (pool.instantiate limits api).map fun part => part.instances.map Instance.unbound := by
  simp only [map_instances_instantiate, hunbound, h.window_eq]

/-- A declaration that adds implied bounds has the same candidates. -/
theorem IsClosed.sameCandidates (hpool : pool.IsClosed) {fact further : ApiFact}
    (h : fact.AddsImplied further) : pool.SameCandidates fact.params further.params :=
  h.params.imp fun _ _ hpq => ⟨hpq.1, hpool.query_eq hpq.2.1 hpq.2.2⟩

end Pool

/-- After any history of a pool a demand and all that it implies have the same candidates.  A
declaration whose parameters ask for implied bounds too is accepted or refused as before, and
has the same candidates, substitutions and instances. -/
theorem CachedPool.instances_of_addsImplied (facts : List CandidateFact) (builtins : Bool)
    (calls : List PoolCall) :
    let cached := (ofFacts facts builtins).run calls
    (∀ required, (cached.query required.expand).1 = (cached.query required).1) ∧
    ∀ fact further : ApiFact, fact.AddsImplied further →
      further.signature.map Signature.unbound = fact.signature.map Signature.unbound ∧
      ∀ api other, fact.signature = .ok api → further.signature = .ok other →
        List.Forall₂ (fun p q => (cached.query q.bounds).1 = (cached.query p.bounds).1)
          api.generics other.generics ∧
        (∀ n, Pool.bareSubstitutions (cached.pool.substitutions n other) =
          Pool.bareSubstitutions (cached.pool.substitutions n api)) ∧
        ∀ limits,
          (cached.pool.instantiate limits other).map (fun part => part.instances.map Instance.unbound) =
            (cached.pool.instantiate limits api).map fun part => part.instances.map Instance.unbound := by
  intro cached
  have hclosed : cached.pool.IsClosed :=
    Pool.isClosed_of_records (pool_run_ofFacts facts builtins calls ▸ records_offered _)
  have hquery : ∀ required, (cached.query required).1 = cached.pool.query required := fun required => by
    rw [query_run, ← pool_run_ofFacts]
  refine ⟨fun required => ?_, fun fact further h => ⟨h.signature_eq, fun api other hapi hother => ?_⟩⟩
  · rw [hquery, hquery]
    exact hclosed.query_eq (fun _ hn => BoundSet.mem_expand.mpr (.of_mem hn))
      fun _ hn => BoundSet.mem_expand.mp hn
  · have hunbound := h.signature_eq
    rw [hapi, hother] at hunbound
    have hunbound : other.unbound = api.unbound := Except.ok.inj hunbound
    obtain ⟨inputs, output, -, -, rfl⟩ := ApiFact.signature_eq_ok hapi
    obtain ⟨inputs', output', -, -, rfl⟩ := ApiFact.signature_eq_ok hother
    have hsame := hclosed.sameCandidates h
    refine ⟨hsame.imp fun p q hpq => ?_, hsame.substitutions_eq, hsame.instances_eq hunbound⟩
    rw [hquery, hquery, hpq.2]

/-! ### A small case -/

/-- `pick<T: Ord>(value: T) -> T`. -/
def pickFact : ApiFact :=
  ⟨"pick", [⟨"T", ["Ord"]⟩], [⟨"value", "T"⟩], some "T"⟩

/-- The same function with two supertraits of `Ord` spelled out. -/
def pickSpelledFact : ApiFact :=
  { pickFact with generics := [⟨"T", ["PartialEq", "?Sized", "Ord", "Eq"]⟩] }

theorem addsImplied_pick : pickFact.AddsImplied pickSpelledFact := by
  have hnames : (BoundSet.of ["PartialEq", "?Sized", "Ord", "Eq"]).names = ["Eq", "Ord", "PartialEq"] := by
    cbv
  have hone : (BoundSet.of ["Ord"]).names = ["Ord"] := by cbv
  have hord : (BoundSet.of ["Ord"]).Implies "Ord" := .of_mem (by rw [BoundSet.mem_def, hone]; simp)
  have heq : (BoundSet.of ["Ord"]).Implies "Eq" := hord.supertrait (by decide)
  refine ⟨rfl, .cons ⟨rfl, ?kept, ?implied⟩ .nil, rfl, rfl⟩
  case kept =>
    intro bound hbound
    have hbound : bound ∈ ["Ord"] := hbound
    rw [BoundSet.mem_def, hnames]
    simp_all
  case implied =>
    intro bound hbound
    rw [BoundSet.mem_def, hnames] at hbound
    simp only [List.mem_cons, List.not_mem_nil, or_false] at hbound
    rcases hbound with rfl | rfl | rfl
    · exact heq
    · exact hord
    · exact heq.supertrait (by decide)

/-- A pool of two candidates, asked once in between. -/
def twoWares : CachedPool :=
  (CachedPool.ofFacts [⟨"Widget", ["Ord"]⟩] false).run
    [.query (.of ["Eq"]), .register (.text "Gadget") (.written ["Copy"])]

/-- `Widget` fits both declarations and `Gadget` fits neither. -/
theorem CachedPool.instances_of_addsImplied_pick :
    ∃ api other, pickFact.signature = .ok api ∧ pickSpelledFact.signature = .ok other ∧
      pickFact.AddsImplied pickSpelledFact ∧ api ≠ other ∧
      (twoWares.pool.instantiate ⟨3, 5, 4096⟩ api).map (fun part => part.instances.map Instance.key) =
        .ok ["pick<T=Widget>"] ∧
      (twoWares.pool.instantiate ⟨3, 5, 4096⟩ other).map (fun part => part.instances.map Instance.unbound) =
        (twoWares.pool.instantiate ⟨3, 5, 4096⟩ api).map fun part => part.instances.map Instance.unbound := by
  have hsignature : pickFact.signature = .ok ⟨"pick", pickFact.params, [("value", .param "T")], .param "T"⟩ := by
    cbv
  have hspelled : pickSpelledFact.signature =
      .ok ⟨"pick", pickSpelledFact.params, [("value", .param "T")], .param "T"⟩ := by
    cbv
  have hsize : windowSize 4096 = .ok 4096 := by decide +kernel
  have hgeneric : Signature.isGeneric ⟨"pick", pickFact.params, [("value", .param "T")], .param "T"⟩ = true :=
    rfl
  refine ⟨_, _, hsignature, hspelled, addsImplied_pick, by decide +kernel, ?_, ?_⟩
  · rw [Pool.instantiate, if_pos hgeneric, hsize]
    cbv
  · exact ((instances_of_addsImplied _ _ _).2 _ _ addsImplied_pick).2 _ _ hsignature hspelled |>.2.2 _

end FuzzSynth
