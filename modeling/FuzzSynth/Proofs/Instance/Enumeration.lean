/-
The substitutions of a signature.

`Substitution.Resolves` says that a substitution pairs the parameters of a signature, in order, with
candidates that satisfy their bounds.  These substitutions, and no others, make up the sequence
`Pool.allSubstitutions` (`mem_allSubstitutions_iff`), in which no two put in the same types
(`nodup_types_allSubstitutions`) and each stands at the place that its candidates have as digits
(`exists_pair_of_getElem?`).

If each parameter can be resolved, then asking for some substitutions gives the first ones of that
sequence, and the number of substitutions is its length (`Pool.exists_isEnumeration`).
-/
import FuzzSynth.Instance.Instantiate
import FuzzSynth.Proofs.Instance.Choices
import FuzzSynth.Proofs.Signature.Scope

namespace FuzzSynth

/-! ## What a parameter may stand for -/

namespace Pool

variable {pool : Pool}

theorem mem_query_iff {required : BoundSet} {c : Candidate} :
    c ∈ pool.query required ↔ c ∈ pool.entries ∧ ∀ b ∈ required, b ∈ c.bounds := by
  rw [query, List.mem_filter, Candidate.satisfies, BoundSet.isSatisfiedBy_iff]

/-- No type is offered twice, however often it was registered. -/
theorem nodup_types_query (pool : Pool) (required : BoundSet) :
    ((pool.query required).map Candidate.type).Nodup :=
  pool.nodup.sublist (List.filter_sublist.map _)

theorem resolve_eq_ok_iff {param : GenericParam} {options : List Candidate} :
    pool.resolve param = .ok options ↔ options ≠ [] ∧ pool.query param.bounds = options := by
  unfold resolve
  cases pool.query param.bounds <;> simp +contextual [eq_comm]

end Pool

/-! ## Resolving all parameters -/

namespace Substitution

/-- The substitution pairs these parameters, in order, with candidates of the pool that satisfy
their bounds. -/
structure Resolves (σ : Substitution) (pool : Pool) (params : List GenericParam) : Prop where
  params_eq : σ.pairs.map Prod.fst = params
  registered : ∀ pair ∈ σ.pairs, pair.2 ∈ pool.entries
  satisfied : ∀ pair ∈ σ.pairs, ∀ b ∈ pair.1.bounds, b ∈ pair.2.bounds

variable {σ : Substitution} {pool : Pool} {params : List GenericParam}

/-- A choice among what each parameter may stand for resolves the parameters. -/
theorem resolves_ofLists {choice : List Candidate}
    (h : List.Forall₂ (fun c param => c ∈ pool.query param.bounds) choice params) :
    (ofLists params choice).Resolves pool params := by
  induction h with
  | nil => exact ⟨rfl, by simp [ofLists], by simp [ofLists]⟩
  | cons hc _ ih =>
      obtain ⟨hmem, hbounds⟩ := Pool.mem_query_iff.mp hc
      exact ⟨congrArg _ ih.params_eq, List.forall_mem_cons.mpr ⟨hmem, ih.registered⟩,
        List.forall_mem_cons.mpr ⟨hbounds, ih.satisfied⟩⟩

theorem resolves_empty (pool : Pool) (h : params = []) : empty.Resolves pool params :=
  ⟨h.symm, by simp [empty], by simp [empty]⟩

theorem Resolves.eq_ofLists (h : σ.Resolves pool params) : σ = ofLists params σ.candidates := by
  obtain ⟨pairs⟩ := σ
  rw [← h.params_eq, ofLists, candidates, List.zip_map']
  simp

/-- A parameter that is paired is found by its name. -/
theorem Resolves.exists_typeFor (h : σ.Resolves pool params) {name : String}
    (hname : name ∈ params.map GenericParam.name) :
    ∃ p c, (p, c) ∈ σ.pairs ∧ p.name = name ∧ σ.typeFor name = some c.type := by
  rw [← h.params_eq, List.map_map] at hname
  obtain ⟨pair, hpair, hpairname⟩ := List.mem_map.mp hname
  -- the lookup by name finds this pair, or one before it with the same name
  obtain ⟨⟨p, c⟩, hfind⟩ := Option.isSome_iff_exists.mp
    (List.find?_isSome.mpr ⟨pair, hpair, by simpa using hpairname⟩ :
      (σ.pairs.find? fun pair => pair.1.name == name).isSome = true)
  refine ⟨p, c, List.mem_of_find?_eq_some hfind, by simpa using List.find?_some hfind, ?_⟩
  rw [typeFor, hfind]
  rfl

/-- If the parameters have different names, it is found with its own candidate. -/
theorem Resolves.typeFor_of_mem (h : σ.Resolves pool params)
    (hnames : (params.map GenericParam.name).Nodup) {pair : GenericParam × Candidate}
    (hpair : pair ∈ σ.pairs) : σ.typeFor pair.1.name = some pair.2.type := by
  have hname : pair.1.name ∈ params.map GenericParam.name := by
    rw [← h.params_eq]
    exact List.mem_map_of_mem (List.mem_map_of_mem hpair)
  rw [← h.params_eq, List.map_map] at hnames
  obtain ⟨p, c, hmem, heq, htype⟩ := h.exists_typeFor hname
  obtain rfl : (p, c) = pair := List.inj_on_of_nodup_map hnames hmem hpair heq
  exact htype

theorem types_ofLists {choice : List Candidate} (h : choice.length ≤ params.length) :
    (ofLists params choice).types = choice.map Candidate.type := by
  have hsnd : (params.zip choice).map Prod.snd = choice := List.map_snd_zip h
  calc (ofLists params choice).types
      = ((params.zip choice).map Prod.snd).map Candidate.type := by
        rw [List.map_map]
        rfl
    _ = choice.map Candidate.type := by rw [hsnd]

end Substitution

/-! ## All substitutions -/

namespace Pool

variable {pool : Pool} {api : Signature} {σ : Substitution} {lists : List (List Candidate)}

/-- What each parameter may stand for. -/
def optionsOf (pool : Pool) (api : Signature) : List (List Candidate) :=
  api.generics.map fun param => pool.query param.bounds

/-- Every substitution, the candidate of the last parameter changing fastest. -/
def allSubstitutions (pool : Pool) (api : Signature) : List Substitution :=
  (choices (pool.optionsOf api)).map (.ofLists api.generics)

theorem mem_choices_optionsOf_iff {choice : List Candidate} :
    choice ∈ choices (pool.optionsOf api) ↔
      List.Forall₂ (fun c param => c ∈ pool.query param.bounds) choice api.generics := by
  rw [mem_choices_iff, optionsOf, List.forall₂_map_right_iff]

/-- The substitutions are all ways to resolve the parameters. -/
theorem mem_allSubstitutions_iff :
    σ ∈ pool.allSubstitutions api ↔ σ.Resolves pool api.generics := by
  constructor
  · intro h
    obtain ⟨choice, hchoice, rfl⟩ := List.mem_map.mp h
    exact Substitution.resolves_ofLists (mem_choices_optionsOf_iff.mp hchoice)
  · intro h
    refine List.mem_map.mpr ⟨σ.candidates, mem_choices_optionsOf_iff.mpr ?_, h.eq_ofLists.symm⟩
    rw [← h.params_eq, Substitution.candidates, List.forall₂_map_left_iff,
      List.forall₂_map_right_iff]
    exact List.forall₂_same.mpr fun pair hpair =>
      mem_query_iff.mpr ⟨h.registered pair hpair, h.satisfied pair hpair⟩

theorem length_allSubstitutions (pool : Pool) (api : Signature) :
    (pool.allSubstitutions api).length = ((pool.optionsOf api).map List.length).prod := by
  rw [allSubstitutions, List.length_map, length_choices]

/-- No two substitutions put in the same types. -/
theorem nodup_types_allSubstitutions (pool : Pool) (api : Signature) :
    ((pool.allSubstitutions api).map Substitution.types).Nodup := by
  have htypes : ∀ choice ∈ choices (pool.optionsOf api),
      (Substitution.ofLists api.generics choice).types = choice.map Candidate.type :=
    fun choice hchoice =>
      Substitution.types_ofLists (Nat.le_of_eq (mem_choices_optionsOf_iff.mp hchoice).length_eq)
  have hmap := List.map_congr_left htypes
  rw [allSubstitutions, List.map_map, Function.comp_def, hmap]
  refine nodup_map_choices fun options hoptions => ?_
  obtain ⟨param, -, rfl⟩ := List.mem_map.mp hoptions
  exact pool.nodup_types_query param.bounds

/-- The candidates of a substitution are the digits of its place. -/
theorem exists_pair_of_getElem? {k place : Nat} {param : GenericParam}
    (h : (pool.allSubstitutions api)[k]? = some σ) (hparam : api.generics[place]? = some param) :
    ∃ c, σ.pairs[place]? = some (param, c) ∧
      (pool.query param.bounds)[k / stride (pool.optionsOf api) place %
        (pool.query param.bounds).length]? = some c := by
  rw [allSubstitutions, List.getElem?_map] at h
  obtain ⟨choice, hchoice, rfl⟩ := Option.map_eq_some_iff.mp h
  have hplace : (pool.optionsOf api)[place]? = some (pool.query param.bounds) := by
    rw [optionsOf, List.getElem?_map, hparam]
    rfl
  obtain ⟨c, hc, hdigit⟩ := getElem?_choices hchoice hplace
  exact ⟨c, List.getElem?_zip_eq_some.mpr ⟨hparam, hc⟩, hdigit⟩

/-! ## Asking for some of them -/

theorem eq_optionsOf_of_candidateLists (h : pool.candidateLists api = .ok lists) :
    lists = pool.optionsOf api := by
  have hquery : List.Forall₂ (fun param options => pool.query param.bounds = options)
      api.generics lists :=
    (Ty.mapM_eq_ok_iff_forall₂.mp h).imp fun _ _ hresolve => (resolve_eq_ok_iff.mp hresolve).2
  have hall : List.Forall₂ Eq (pool.optionsOf api) lists := List.forall₂_map_left_iff.mpr hquery
  rw [List.forall₂_eq_eq_eq] at hall
  exact hall.symm

theorem candidateLists_eq
    (h : ∀ param ∈ api.generics, ∃ options, pool.resolve param = .ok options) :
    pool.candidateLists api = .ok (pool.optionsOf api) := by
  rw [candidateLists, Ty.mapM_eq_ok_iff, optionsOf, List.map_map]
  refine List.map_congr_left fun param hparam => ?_
  obtain ⟨options, hoptions⟩ := h param hparam
  rw [hoptions, Function.comp_apply, (resolve_eq_ok_iff.mp hoptions).2]

theorem map_firstChoices_optionsOf (n : Nat) :
    (firstChoices n (pool.optionsOf api)).map (Substitution.ofLists api.generics) =
      (pool.allSubstitutions api).take n := by
  rw [firstChoices_eq_take, List.map_take, allSubstitutions]

/-- A window shows the first substitutions, and an empty one none. -/
theorem eq_take_of_window {size : Nat} {window : List Substitution}
    (h : pool.window size api = .ok window) : window = (pool.allSubstitutions api).take size := by
  unfold Pool.window at h
  split at h
  · next hsize =>
      rw [hsize, ← Except.ok.inj h]
      rfl
  · obtain ⟨lists, hlists, rfl⟩ := Ty.map_eq_ok_iff.mp h
    rw [eq_optionsOf_of_candidateLists hlists, map_firstChoices_optionsOf]

/-- Every substitution in a window resolves the parameters of the signature. -/
theorem resolves_of_mem_window {size : Nat} {window : List Substitution}
    (hwindow : pool.window size api = .ok window) (hσ : σ ∈ window) :
    σ.Resolves pool api.generics := by
  rw [eq_take_of_window hwindow] at hσ
  exact mem_allSubstitutions_iff.mp (List.mem_of_mem_take hσ)

/-- No two substitutions in a window put in the same types. -/
theorem nodup_types_window {size : Nat} {window : List Substitution}
    (h : pool.window size api = .ok window) : (window.map Substitution.types).Nodup := by
  rw [eq_take_of_window h, List.map_take]
  exact (pool.nodup_types_allSubstitutions api).sublist (List.take_sublist _ _)

theorem length_window_le {size : Nat} {window : List Substitution}
    (h : pool.window size api = .ok window) : window.length ≤ size := by
  rw [eq_take_of_window h]
  exact List.length_take_le _ _

end Pool

/-- The substitutions of a signature, one after the other. -/
structure Signature.IsEnumeration (api : Signature) (pool : Pool) (all : List Substitution) :
    Prop where
  /-- There are as many as the combinations that are counted. -/
  count : pool.substitutionCount api = .ok all.length
  /-- Asking for `n` of them gives the first `n`. -/
  substitutions : ∀ n, pool.substitutions n api = .ok (all.take n)
  /-- They differ in the types that they put in. -/
  nodup_types : (all.map Substitution.types).Nodup
  /-- The parameters stand in order of position. -/
  positions : api.generics.map GenericParam.position = List.range api.generics.length
  /-- They pair the parameters in this order with candidates that satisfy their bounds, in every
  way there is. -/
  mem_iff : ∀ σ : Substitution, σ ∈ all ↔ σ.Resolves pool api.generics
  sound : ∀ σ ∈ all, σ.isSound = true
  /-- The candidate of a parameter is the digit of the number of the substitution. -/
  rowMajor : ∀ k σ, all[k]? = some σ → ∀ place param, api.generics[place]? = some param →
    ∃ c, σ.pairs[place]? = some (param, c) ∧
      (pool.query param.bounds)[k / stride (pool.optionsOf api) place %
        (pool.query param.bounds).length]? = some c

theorem ApiFact.map_position_params (fact : ApiFact) :
    fact.params.map GenericParam.position = List.range fact.params.length := by
  apply List.ext_getElem
  · simp
  · intro place hplace _
    simp [params]

theorem Substitution.Resolves.isSound {σ : Substitution} {pool : Pool} {params : List GenericParam}
    (h : σ.Resolves pool params) : σ.isSound = true := by
  rw [Substitution.isSound, List.all_eq_true]
  exact fun pair hpair => BoundSet.isSatisfiedBy_iff.mpr (h.satisfied pair hpair)

/-- If each parameter of a declared function can be resolved, its substitutions are enumerated. -/
theorem Pool.exists_isEnumeration {fact : ApiFact} {api : Signature} {pool : Pool}
    (hsignature : fact.signature = .ok api)
    (hresolve : ∀ param ∈ api.generics, ∃ options, pool.resolve param = .ok options) :
    ∃ all, api.IsEnumeration pool all := by
  have hlists := candidateLists_eq hresolve
  refine ⟨pool.allSubstitutions api, ?_⟩
  constructor
  case count =>
    rw [substitutionCount, hlists, length_allSubstitutions, List.prod_eq_foldr]
    rfl
  case substitutions =>
    intro n
    rw [substitutions, hlists, ← map_firstChoices_optionsOf]
    rfl
  case nodup_types => exact pool.nodup_types_allSubstitutions api
  case positions =>
    obtain ⟨inputs, output, -, -, rfl⟩ := ApiFact.signature_eq_ok hsignature
    exact fact.map_position_params
  case mem_iff => exact fun σ => mem_allSubstitutions_iff
  case sound => exact fun σ hσ => (mem_allSubstitutions_iff.mp hσ).isSound
  case rowMajor => exact fun k σ hσ place param hparam => exists_pair_of_getElem? hσ hparam

/-! ### A small case -/

/-- `entry<K: Hash, V: PartialOrd>(key: K, value: V) -> (K, V)`. -/
def entryFact : ApiFact :=
  ⟨"entry", [⟨"K", ["Hash"]⟩, ⟨"V", ["PartialOrd"]⟩], [⟨"key", "K"⟩, ⟨"value", "V"⟩], some "(K, V)"⟩

def entryApi : Signature :=
  ⟨"entry", [⟨"K", 0, .of ["Hash"], "entry"⟩, ⟨"V", 1, .of ["PartialOrd"], "entry"⟩],
    [("key", .param "K"), ("value", .param "V")], .tuple [.param "K", .param "V"]⟩

/-- A pool in which only two of three types can be hashed. -/
def hashingPool : Pool :=
  (Pool.ofFacts [⟨"i32", ["Copy", "Ord", "Hash"]⟩, ⟨"String", ["Clone", "Ord", "Hash"]⟩,
    ⟨"f64", ["Copy", "PartialOrd"]⟩] false).pool

/-- Of the six substitutions the first three put in `i32` for `K`. -/
theorem Pool.exists_isEnumeration_entry :
    entryFact.signature = .ok entryApi ∧ hashingPool.substitutionCount entryApi = .ok 6 ∧
      (hashingPool.substitutions 3 entryApi).map (List.map Substitution.types) =
        .ok [[.named "i32" [], .named "i32" []], [.named "i32" [], .named "String" []],
          [.named "i32" [], .named "f64" []]] ∧
      ∃ all, entryApi.IsEnumeration hashingPool all := by
  have hsignature : entryFact.signature = .ok entryApi := by decide +kernel
  have hresolve : ∀ param ∈ entryApi.generics, ∃ options,
      hashingPool.resolve param = .ok options := by
    intro param hparam
    refine ⟨_, resolve_eq_ok_iff.mpr ⟨?_, rfl⟩⟩
    rcases List.mem_pair.mp hparam with rfl | rfl <;> decide +kernel
  exact ⟨hsignature, by decide +kernel, by decide +kernel,
    Pool.exists_isEnumeration hsignature hresolve⟩

end FuzzSynth
