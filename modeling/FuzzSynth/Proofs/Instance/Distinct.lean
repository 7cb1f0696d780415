/-
Instances of one function differ in their types.

Replacing parameters can be undone as far as the parameters occur
(`Ty.Over.fill_eq_of_subst_eq`), and every parameter of a declared function occurs in some type.
So the types of an instance say what was put in for the parameters
(`Substitution.types_eq_of_types_subst_eq`).  Since no two substitutions in a window put in the same
types, no two instances have the same ones: one of the inputs differs, or the output does
(`Pool.pairwise_differsInType`).

The types are compared as they are, not by their notations, so this holds for any pool, whatever
was registered and how often.
-/
import FuzzSynth.Proofs.Instance.Outcome
import FuzzSynth.Proofs.Ty.Spelling

namespace FuzzSynth

/-! ## Types with their parameters replaced -/

namespace Ty

variable {params : List String} {fill other : String → Option Ty} {t : Ty}

theorem fill_eq_of_subst_node {f : Former} {as : List Ty}
    (h : ∀ a ∈ as, a.subst fill = a.subst other → ∀ name ∈ a.slots, fill name = other name)
    (heq : (node f false as).subst fill = (node f false as).subst other) :
    ∀ name ∈ (node f false as).slots, fill name = other name := by
  rw [Ty.subst, Ty.subst, substAll_eq, substAll_eq] at heq
  injection heq with _ _ hargs
  intro name hname
  obtain ⟨a, ha, hname⟩ := mem_slots_node.mp hname
  exact h a ha (List.map_inj_left.mp hargs a ha) name hname

/-- If two replacements give the same type, then they agree on the parameters that occur in it. -/
theorem Over.fill_eq_of_subst_eq (h : Over params t)
    (hfill : ∀ name ∈ params, (fill name).isSome = true)
    (hother : ∀ name ∈ params, (other name).isSome = true)
    (heq : t.subst fill = t.subst other) : ∀ name ∈ t.slots, fill name = other name := by
  induction h with
  | @param name hname =>
      obtain ⟨u, hu⟩ := Option.isSome_iff_exists.mp (hfill name hname)
      obtain ⟨v, hv⟩ := Option.isSome_iff_exists.mp (hother name hname)
      have hput : u = v := by simpa [Ty.subst, Former.label, hu, hv] using heq
      intro slot hslot
      rw [slots_param] at hslot
      rw [List.mem_singleton.mp hslot, hu, hv, hput]
  | ref _ ih | refMut _ ih | slice _ ih | array _ ih =>
      refine fill_eq_of_subst_node (fun a ha => ?_) heq
      rw [List.mem_singleton.mp ha]
      exact ih
  | tuple _ ih | named _ ih => exact fill_eq_of_subst_node ih heq

end Ty

/-! ## Substitutions -/

namespace Substitution

variable {σ τ : Substitution} {pool : Pool} {params : List GenericParam}

theorem Resolves.isSome_typeFor (h : σ.Resolves pool params) :
    ∀ name ∈ params.map GenericParam.name, (σ.typeFor name).isSome = true := by
  intro name hname
  obtain ⟨p, c, -, -, hc⟩ := h.exists_typeFor hname
  rw [hc]
  rfl

/-- If the parameters have different names, looking them up gives back what was put in. -/
theorem Resolves.map_typeFor (h : σ.Resolves pool params)
    (hnames : (params.map GenericParam.name).Nodup) :
    (params.map GenericParam.name).map σ.typeFor = σ.types.map some := by
  rw [← h.params_eq, List.map_map, List.map_map, types, List.map_map]
  exact List.map_congr_left fun pair hpair => h.typeFor_of_mem hnames hpair

/-- The types of a declared function with its parameters replaced say what was put in. -/
theorem types_eq_of_types_subst_eq {fact : ApiFact} {api : Signature}
    (hsignature : fact.signature = .ok api) (hσ : σ.Resolves pool api.generics)
    (hτ : τ.Resolves pool api.generics) (heq : (api.subst σ).types = (api.subst τ).types) :
    σ.types = τ.types := by
  have hgenerics := ApiFact.map_name_generics hsignature
  have hnames : (api.generics.map GenericParam.name).Nodup := by
    rw [hgenerics]
    exact ApiFact.nodup_paramNames hsignature
  rw [Signature.types_subst, Signature.types_subst] at heq
  have hlookup : ∀ name ∈ api.generics.map GenericParam.name, σ.typeFor name = τ.typeFor name := by
    intro name hname
    obtain ⟨t, ht, hslot⟩ := ApiFact.exists_mem_slots hsignature name (hgenerics ▸ hname)
    exact (ApiFact.isScoped_of_signature hsignature t ht).fill_eq_of_subst_eq hσ.isSome_typeFor
      hτ.isSome_typeFor (List.map_inj_left.mp heq t ht) name hslot
  have hmap := List.map_congr_left hlookup
  rw [hσ.map_typeFor hnames, hτ.map_typeFor hnames] at hmap
  exact List.map_injective_iff.mpr (fun _ _ => Option.some.inj) hmap

end Substitution

/-! ## Instances -/

namespace Instance

/-- Some input has another type, or the output has. -/
def DiffersInType (m other : Instance) : Prop :=
  (∃ (place : Nat) (t u : Ty),
      m.inputTypes[place]? = some t ∧ other.inputTypes[place]? = some u ∧ t ≠ u) ∨
    m.output ≠ other.output

theorem differsInType_of_types_ne {m other : Instance}
    (hlength : m.inputTypes.length = other.inputTypes.length)
    (h : m.signature.types ≠ other.signature.types) : m.DiffersInType other := by
  by_cases houtput : m.output = other.output
  · -- then the inputs are not all the same
    have hinputs : m.inputTypes ≠ other.inputTypes := by
      intro hinputs
      exact h (congrArg₂ (fun inputs output => inputs ++ [output]) hinputs houtput)
    obtain ⟨place, hm, hother, hne⟩ : ∃ place, ∃ (hm : place < m.inputTypes.length)
        (hother : place < other.inputTypes.length),
          m.inputTypes[place] ≠ other.inputTypes[place] := by
      by_contra hall
      refine hinputs (List.ext_getElem hlength fun place hm hother => ?_)
      by_contra hne
      exact hall ⟨place, hm, hother, hne⟩
    exact .inl ⟨place, _, _, List.getElem?_eq_getElem hm, List.getElem?_eq_getElem hother, hne⟩
  · exact .inr houtput

end Instance

/-- Any two instances of a declared function differ in the type of an input or in that of the
output, so no signature comes twice. -/
theorem Pool.pairwise_differsInType {fact : ApiFact} {api : Signature} {pool : Pool}
    {limits : InstanceLimits} {part : Instantiation} (hsignature : fact.signature = .ok api)
    (h : pool.instantiate limits api = .ok part) :
    part.instances.Pairwise Instance.DiffersInType ∧
      (part.instances.map Instance.signature).Nodup := by
  have htypes : (part.instances.map fun m => m.signature.types).Nodup :=
    nodup_map_of_instantiate h fun hσ hτ heq =>
      Substitution.types_eq_of_types_subst_eq hsignature hσ hτ heq
  constructor
  · refine (List.pairwise_map.mp htypes).imp_of_mem fun {m other} hm hother hne => ?_
    obtain ⟨σ, -, rfl⟩ := exists_resolves_of_instantiate h m hm
    obtain ⟨τ, -, rfl⟩ := exists_resolves_of_instantiate h other hother
    refine Instance.differsInType_of_types_ne ?_ hne
    -- both have the inputs of the declaration
    simp [Instance.inputTypes, Signature.inputTypes, Signature.instanceOf, Signature.subst]
  · have hcompose : (part.instances.map fun m => m.signature.types) =
        (part.instances.map Instance.signature).map Signature.types := by
      rw [List.map_map]
      rfl
    rw [hcompose] at htypes
    exact List.Nodup.of_map _ htypes

/-! ### A small case -/

/-- Though `i32` is offered again, no instance comes twice. -/
theorem Pool.pairwise_differsInType_entry :
    ∃ pool part, hashingPool.register (.named "i32" []) (.of ["Ord", "Hash"]) = .ok pool ∧
      entryFact.signature = .ok entryApi ∧ pool.instantiate ⟨3, 5, 4096⟩ entryApi = .ok part ∧
      part.instances.map Instance.inputTypes =
        [[.named "i32" [], .named "String" []], [.named "String" [], .named "f64" []],
          [.named "i32" [], .named "i32" []]] ∧
      part.instances.Pairwise Instance.DiffersInType ∧
      (part.instances.map Instance.signature).Nodup := by
  have hsignature : entryFact.signature = .ok entryApi := by decide +kernel
  let pool := hashingPool.place (.offering (.named "i32" []) (.of ["Ord", "Hash"]))
  have htypes : (pool.instantiate ⟨3, 5, 4096⟩ entryApi).map
      (fun part => part.instances.map Instance.inputTypes) =
        .ok [[.named "i32" [], .named "String" []], [.named "String" [], .named "f64" []],
          [.named "i32" [], .named "i32" []]] := by
    decide +kernel
  obtain ⟨part, hpart, htypes⟩ := Ty.map_eq_ok_iff.mp htypes
  exact ⟨pool, part, rfl, hsignature, hpart, htypes,
    Pool.pairwise_differsInType hsignature hpart⟩

end FuzzSynth
