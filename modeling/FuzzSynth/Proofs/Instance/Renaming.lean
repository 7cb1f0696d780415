/-
Instances under other names for the parameters.

Candidates are found by the bounds of a parameter and combined by its position, and a selection
counts types and positions, so names have no say in any of this.  They only tell which type replaces
which parameter, and as long as different parameters have different names they tell the same
(`Substitution.typeFor_rename`).  So a function has the same instances under other names, but for
the names in what is kept of the declaration (`Pool.instantiate_rename`).

`Pool.instances_of_rename` puts this together with what holds of the declaration.
-/
import FuzzSynth.Proofs.Instance.Outcome
import FuzzSynth.Proofs.Signature.Renaming

namespace FuzzSynth

variable {f : String → String}

/-! ## Renaming -/

/-- The choice of candidates, for parameters with other names. -/
def Substitution.rename (f : String → String) (σ : Substitution) : Substitution :=
  ⟨σ.pairs.map fun pair => (pair.1.rename f, pair.2)⟩

/-- The instance with other names in what is kept of the declaration. -/
def Instance.rename (f : String → String) (m : Instance) : Instance :=
  ⟨m.declaration.rename f, m.substitution.rename f, m.signature⟩

namespace Substitution

variable {σ : Substitution} {name : String}

/-- A name of which there is no other is looked up like its new name. -/
theorem typeFor_rename (h : ∀ pair ∈ σ.pairs, f pair.1.name = f name → pair.1.name = name) :
    (σ.rename f).typeFor (f name) = σ.typeFor name := by
  rw [typeFor, typeFor, rename, List.find?_map, Option.map_map]
  refine congrArg (Option.map _) (List.find?_congr fun pair hpair => ?_)
  show (f pair.1.name == f name) = (pair.1.name == name)
  rw [Bool.eq_iff_iff, beq_iff_eq, beq_iff_eq]
  exact ⟨h pair hpair, congrArg f⟩

theorem types_rename (f : String → String) (σ : Substitution) : (σ.rename f).types = σ.types := by
  rw [types, types, rename, List.map_map]
  rfl

theorem coverage_rename (f : String → String) (σ : Substitution) :
    (σ.rename f).coverage = σ.coverage := by
  rw [coverage, coverage, rename, List.map_map]
  rfl

theorem rename_ofLists (f : String → String) (params : List GenericParam)
    (candidates : List Candidate) :
    (ofLists params candidates).rename f =
      ofLists (params.map (GenericParam.rename f)) candidates := by
  rw [rename, ofLists, ofLists, List.zip_map_left]
  rfl

end Substitution

/-- The parameter that cannot be resolved, under another name. -/
def Unsatisfiable.rename (f : String → String) (u : Unsatisfiable) : Unsatisfiable :=
  ⟨u.param.rename f⟩

/-! ## Replacing parameters -/

namespace Signature

variable {api : Signature} {pool : Pool} {σ : Substitution}

theorem isGeneric_rename (f : String → String) (api : Signature) :
    (api.rename f).isGeneric = api.isGeneric := by
  simp [isGeneric, rename]

section Apart

variable (hscoped : api.IsScoped)
  (hinjOn : Set.InjOn f {n | n ∈ api.generics.map GenericParam.name})
include hscoped hinjOn

/-- Putting in types under new names for the parameters is the same as under the old ones. -/
theorem subst_rename (hσ : σ.Resolves pool api.generics) :
    (api.rename f).subst (σ.rename f) = api.subst σ := by
  -- the window resolves every parameter, and no other one has its new name
  have hfill : ∀ n ∈ api.generics.map GenericParam.name,
      ∃ u, σ.typeFor n = some u ∧ (σ.rename f).typeFor (f n) = some u := by
    intro n hn
    obtain ⟨p, c, -, -, hc⟩ := hσ.exists_typeFor hn
    refine ⟨c.type, hc, (Substitution.typeFor_rename fun pair hpair heq => ?_).trans hc⟩
    refine hinjOn ?_ hn heq
    show pair.1.name ∈ api.generics.map GenericParam.name
    rw [← hσ.params_eq]
    exact List.mem_map_of_mem (List.mem_map_of_mem hpair)
  have htype : ∀ t ∈ api.types, (t.rename f).subst (σ.rename f).typeFor = t.subst σ.typeFor :=
    fun t ht => (hscoped t ht).subst_rename hfill
  have hinputs : (api.inputs.map fun input =>
      (input.1, (input.2.rename f).subst (σ.rename f).typeFor)) =
        api.inputs.map fun input => (input.1, input.2.subst σ.typeFor) :=
    List.map_congr_left fun input hinput => by
      rw [htype _ (List.mem_append_left _ (List.mem_map_of_mem hinput))]
  have houtput := htype _ (List.mem_append_right _ (List.mem_singleton_self _))
  rw [subst, subst, rename, houtput, List.map_map]
  exact congrArg (fun inputs => (⟨api.path, [], inputs, _⟩ : Signature)) hinputs

theorem instanceOf_rename (hσ : σ.Resolves pool api.generics) :
    (api.rename f).instanceOf (σ.rename f) = (api.instanceOf σ).rename f := by
  rw [instanceOf, subst_rename hscoped hinjOn hσ]
  rfl

theorem instances_rename (limits : InstanceLimits) {window : List Substitution}
    (hwindow : ∀ σ ∈ window, σ.Resolves pool api.generics) :
    ((api.rename f).instantiateFrom limits (window.map (Substitution.rename f))).instances =
      (api.instantiateFrom limits window).instances.map (Instance.rename f) := by
  have htried : (window.map (Substitution.rename f)).map (api.rename f).instanceOf =
      (window.map api.instanceOf).map (Instance.rename f) := by
    rw [List.map_map, List.map_map]
    exact List.map_congr_left fun σ hσ => instanceOf_rename hscoped hinjOn (hwindow σ hσ)
  exact instances_instantiateFrom_map htried (fun _ => rfl) (fun m => m.substitution.types_rename f)
    fun m => m.substitution.coverage_rename f

end Apart

end Signature

/-! ## Pools -/

namespace Pool

variable {pool : Pool} {api : Signature}

theorem resolve_rename (f : String → String) (pool : Pool) (p : GenericParam) :
    pool.resolve (p.rename f) = (pool.resolve p).mapError (Unsatisfiable.rename f) := by
  have hbounds : (p.rename f).bounds = p.bounds := rfl
  rw [resolve, resolve, hbounds]
  cases pool.query p.bounds <;> rfl

theorem candidateLists_rename (f : String → String) (pool : Pool) (api : Signature) :
    pool.candidateLists (api.rename f) =
      (pool.candidateLists api).mapError (Unsatisfiable.rename f) := by
  rw [candidateLists, candidateLists, Ty.mapError_mapM, Signature.rename, List.mapM_map,
    List.mapM_map]
  exact congrArg (List.mapM · api.generics) (funext fun p => resolve_rename f pool p)

/-- The window under new names has the same candidates in the same order. -/
theorem window_rename (f : String → String) (pool : Pool) (n : Nat) (api : Signature) :
    pool.window n (api.rename f) =
      ((pool.window n api).map (List.map (Substitution.rename f))).mapError
        (Unsatisfiable.rename f) := by
  rw [window, window]
  split
  · rfl
  · rw [substitutions, substitutions, candidateLists_rename]
    cases pool.candidateLists api with
    | error u => rfl
    | ok lists =>
        refine congrArg Except.ok ?_
        rw [List.map_map]
        exact List.map_congr_left fun choice _ => (Substitution.rename_ofLists f _ choice).symm

/-- What a function is instantiated to under new names. -/
theorem instantiate_rename (pool : Pool) (limits : InstanceLimits) (hscoped : api.IsScoped)
    (hinjOn : Set.InjOn f {n | n ∈ api.generics.map GenericParam.name}) :
    (pool.instantiate limits (api.rename f)).map Instantiation.instances =
      (pool.instantiate limits api).map fun part => part.instances.map (Instance.rename f) := by
  rw [instantiate, instantiate, api.isGeneric_rename]
  cases hgeneric : api.isGeneric with
  | false =>
      -- without parameters there is nothing to resolve
      have hnone : api.generics = [] := by simpa [Signature.isGeneric] using hgeneric
      exact congrArg (fun m => Except.ok [m])
        (Signature.instanceOf_rename hscoped hinjOn (Substitution.resolves_empty pool hnone))
  | true =>
      cases windowSize limits.maxProductScan with
      | error e => rfl
      | ok size =>
          simp only [if_true, Except.map, window_rename]
          cases hwindow : pool.window size api with
          | error u => rfl
          | ok window =>
              exact congrArg Except.ok (Signature.instances_rename hscoped hinjOn limits
                fun σ hσ => resolves_of_mem_window hwindow hσ)

/-- The names of parameters do not matter.  A declaration is accepted under fresh names too.
Whatever the pool and the limits, the instances of the two functions are the same but for the names
in what is kept of the declaration, so that they have the same types in the same order; if the scan
window is no size, then neither is instantiated. -/
theorem instances_of_rename {fact : ApiFact} (hsignature : fact.signature = .ok api)
    (hfresh : api.IsFresh f) :
    (fact.rename f).signature = .ok (api.rename f) ∧
      ∀ (pool : Pool) (limits : InstanceLimits),
        (∃ part renamed, pool.instantiate limits api = .ok part ∧
            pool.instantiate limits (api.rename f) = .ok renamed ∧
            renamed.instances = part.instances.map (Instance.rename f) ∧
            (renamed.instances.map fun m => (m.inputTypes, m.output)) =
              part.instances.map fun m => (m.inputTypes, m.output)) ∨
          api.isGeneric = true ∧ ∃ e, windowSize limits.maxProductScan = .error e ∧
            pool.instantiate limits api = .error e ∧
            pool.instantiate limits (api.rename f) = .error e := by
  refine ⟨ApiFact.signature_rename hsignature hfresh, fun pool limits => ?_⟩
  have hsame := instantiate_rename pool limits (ApiFact.isScoped_of_signature hsignature)
    hfresh.injOn
  cases hpart : pool.instantiate limits api with
  | ok part =>
      rw [hpart] at hsame
      obtain ⟨renamed, hrenamed, hinstances⟩ := Ty.map_eq_ok_iff.mp hsame
      refine .inl ⟨part, renamed, rfl, hrenamed, hinstances, ?_⟩
      rw [hinstances, List.map_map]
      rfl
  | error e =>
      rw [hpart] at hsame
      obtain ⟨hgeneric, hsize⟩ := instantiate_eq_error_iff.mp hpart
      exact .inr ⟨hgeneric, e, hsize, rfl, Ty.map_eq_error_iff.mp hsame⟩

/-! ### A small case -/

/-- Longer names for keys and values. -/
def spelledOut (name : String) : String :=
  if name = "K" then "Key" else "Value"

theorem isFresh_spelledOut : entryApi.IsFresh spelledOut where
  injOn := by
    have happart : ∀ n ∈ entryApi.generics.map GenericParam.name,
        ∀ m ∈ entryApi.generics.map GenericParam.name, spelledOut n = spelledOut m → n = m := by
      decide +kernel
    exact fun n hn m hm => happart n hn m hm
  identifier := by decide +kernel
  ne_mut := by decide +kernel
  unused := by decide +kernel

/-- The renamed declaration is `entry<Key: Hash, Value: PartialOrd>(key: Key, value: Value) ->
(Key, Value)`, and its first two instances have the types that those of `entry` have. -/
theorem instances_of_rename_entry :
    entryFact.signature = .ok entryApi ∧ entryApi.IsFresh spelledOut ∧
      (entryFact.rename spelledOut).output = some "(Key, Value)" ∧
      (entryFact.rename spelledOut).signature = .ok (entryApi.rename spelledOut) ∧
      ∃ part renamed, hashingPool.instantiate ⟨2, 5, 4096⟩ entryApi = .ok part ∧
        hashingPool.instantiate ⟨2, 5, 4096⟩ (entryApi.rename spelledOut) = .ok renamed ∧
        part.instances.length = 2 ∧
        (renamed.instances.map fun m => (m.inputTypes, m.output)) =
          part.instances.map fun m => (m.inputTypes, m.output) := by
  have hsignature : entryFact.signature = .ok entryApi := by cbv
  have hsize : windowSize 4096 = .ok 4096 := by decide
  have hlength : (hashingPool.instantiate ⟨2, 5, 4096⟩ entryApi).map
      (fun part => part.instances.length) = .ok 2 := by
    decide +kernel
  obtain ⟨hrenamed, hinstances⟩ := instances_of_rename hsignature isFresh_spelledOut
  refine ⟨hsignature, isFresh_spelledOut, by cbv, hrenamed, ?_⟩
  rcases hinstances hashingPool ⟨2, 5, 4096⟩ with
    ⟨part, renamed, hpart, hmore, -, htypes⟩ | ⟨-, e, he, -⟩
  · rw [hpart] at hlength
    exact ⟨part, renamed, hpart, hmore, Except.ok.inj hlength, htypes⟩
  · cases hsize.symm.trans he

end Pool
end FuzzSynth
