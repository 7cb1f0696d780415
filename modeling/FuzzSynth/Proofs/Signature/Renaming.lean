/-
Declarations with other names for their parameters.

`ApiFact.rename` writes a declaration anew with other names for its type parameters; lifetimes keep
theirs.  If the new names are identifiers that mean nothing else in the types (`Signature.IsFresh`),
then it is accepted like the declaration itself, and its signature is the renamed signature
(`ApiFact.signature_rename`).
-/
import FuzzSynth.Proofs.Signature.Scope
import FuzzSynth.Proofs.Ty.Renaming

namespace FuzzSynth

open FuzzSynth.Text

/-! ## Renaming -/

/-- The declared parameter with another name, unless it is a lifetime. -/
def GenericFact.rename (f : String → String) (g : GenericFact) : GenericFact :=
  if isLifetime g.name.toList then g else { g with name := f g.name }

/-- The notation of the type that a text gives, with other names for its parameters. -/
def Ty.renameText (params : List String) (f : String → String) (text : String) : String :=
  match Ty.parse params text with
  | .ok t => (t.rename f).render
  | .error _ => text

/-- The declaration with other names for its type parameters. -/
def ApiFact.rename (f : String → String) (fact : ApiFact) : ApiFact :=
  { fact with
    generics := fact.generics.map (GenericFact.rename f)
    inputs := fact.inputs.map fun input =>
      { input with type := Ty.renameText fact.paramNames f input.type }
    output := fact.output.map fun text =>
      if text.isEmpty then text else Ty.renameText fact.paramNames f text }

def GenericParam.rename (f : String → String) (p : GenericParam) : GenericParam :=
  { p with name := f p.name }

/-- The function with other names for its parameters. -/
def Signature.rename (f : String → String) (api : Signature) : Signature where
  path := api.path
  generics := api.generics.map (GenericParam.rename f)
  inputs := api.inputs.map fun input => (input.1, input.2.rename f)
  output := api.output.rename f

/-- New names for the parameters of a function: different identifiers other than `mut`, none of
them a path in the types of the function. -/
structure Signature.IsFresh (f : String → String) (api : Signature) : Prop where
  injOn : Set.InjOn f {n | n ∈ api.generics.map GenericParam.name}
  identifier : ∀ n ∈ api.generics.map GenericParam.name, isIdentifier (f n).toList = true
  ne_mut : ∀ n ∈ api.generics.map GenericParam.name, f n ≠ "mut"
  unused : ∀ n ∈ api.generics.map GenericParam.name, ∀ t ∈ api.types, f n ∉ t.pathNames

theorem Signature.types_rename (f : String → String) (api : Signature) :
    (api.rename f).types = api.types.map (Ty.rename f) := by
  rw [Signature.types, Signature.inputTypes, Signature.rename, Signature.types,
    Signature.inputTypes, List.map_append, List.map_map, List.map_map]
  rfl

/-! ## Parameters of the renamed declaration -/

theorem isLifetime_of_isIdentifier {name : List Char} (h : isIdentifier name = true) :
    isLifetime name = false :=
  Ty.isLifetime_of_hasSolidEnds (Ty.hasSolidEnds_pathName (isPathName_of_isIdentifier h))

namespace ApiFact

variable {fact : ApiFact} {api : Signature} {f : String → String}

theorem typeParams_rename
    (hident : ∀ n ∈ fact.paramNames, isIdentifier (f n).toList = true) :
    (fact.rename f).typeParams =
      fact.typeParams.map fun g => { g with name := f g.name } := by
  -- no identifier is a lifetime, so the parameters that are types stay the same
  have hkept : ∀ g ∈ fact.generics,
      isLifetime (g.rename f).name.toList = isLifetime g.name.toList := by
    intro g hg
    unfold GenericFact.rename
    cases hlifetime : isLifetime g.name.toList with
    | true => simpa using hlifetime
    | false =>
        have hparam : g ∈ fact.typeParams := List.mem_filter.mpr ⟨hg, by simp [hlifetime]⟩
        exact isLifetime_of_isIdentifier (hident g.name (List.mem_map_of_mem hparam))
  have hfilter : (fact.generics.filter fun g => !isLifetime (g.rename f).name.toList) =
      fact.typeParams := List.filter_congr fun g hg => by rw [hkept g hg]
  rw [typeParams, rename, List.filter_map, Function.comp_def, hfilter]
  refine List.map_congr_left fun g hg => ?_
  have htype : isLifetime g.name.toList = false := by simpa using (List.mem_filter.mp hg).2
  rw [GenericFact.rename, if_neg (by simp [htype])]

theorem paramNames_rename
    (hident : ∀ n ∈ fact.paramNames, isIdentifier (f n).toList = true) :
    (fact.rename f).paramNames = fact.paramNames.map f := by
  rw [paramNames, typeParams_rename hident, paramNames, List.map_map, List.map_map]
  rfl

theorem params_rename
    (hident : ∀ n ∈ fact.paramNames, isIdentifier (f n).toList = true) :
    (fact.rename f).params = fact.params.map (GenericParam.rename f) := by
  -- a parameter has its position, so the two lists are compared place by place
  apply List.ext_getElem?
  intro i
  rw [params, typeParams_rename hident, params]
  simp only [List.getElem?_mapIdx, List.getElem?_map, Option.map_map]
  rfl

/-! ## Types of the renamed declaration -/

theorem renameText_of_parse {params : List String} {text : String} {t : Ty}
    (h : Ty.parse params text = .ok t) : Ty.renameText params f text = (t.rename f).render := by
  rw [Ty.renameText, h]

variable (hident : ∀ n ∈ fact.paramNames, isIdentifier (f n).toList = true)
  (hmut : ∀ n ∈ fact.paramNames, f n ≠ "mut")
include hident hmut

/-- The notation of a renamed type is read under the new names. -/
theorem parse_renameText {text : String} {t : Ty} (h : Ty.parse fact.paramNames text = .ok t)
    (hfresh : ∀ n ∈ fact.paramNames, f n ∉ t.pathNames) :
    Ty.parse (fact.rename f).paramNames (Ty.renameText fact.paramNames f text) =
      .ok (t.rename f) := by
  rw [paramNames_rename hident, renameText_of_parse h]
  exact Ty.parse_render_rename h hident hmut hfresh

theorem readInputs_rename {inputs : List (String × Ty)} (h : fact.readInputs = .ok inputs)
    (hfresh : ∀ n ∈ fact.paramNames, ∀ input ∈ inputs, f n ∉ input.2.pathNames) :
    (fact.rename f).readInputs = .ok (inputs.map fun input => (input.1, input.2.rename f)) := by
  refine Ty.mapM_map_of_mapM_ok h fun given input hinput hread => ?_
  obtain ⟨hname, hparse⟩ := parse_of_readInput hread
  rw [parse_renameText hident hmut hparse fun n hn => hfresh n hn input hinput, hname]
  rfl

theorem readOutput_rename {output : Ty} (h : fact.readOutput = .ok output)
    (hfresh : ∀ n ∈ fact.paramNames, f n ∉ output.pathNames) :
    (fact.rename f).readOutput = .ok (output.rename f) := by
  have hunit : Ty.unit.rename f = .unit := by simp
  unfold readOutput at h ⊢
  cases hgiven : fact.output with
  | none =>
      rw [hgiven] at h
      obtain rfl := Except.ok.inj h
      simp [rename, hgiven]
  | some text =>
      rw [hgiven] at h
      have hrenamed : (fact.rename f).output =
          some (if text.isEmpty then text else Ty.renameText fact.paramNames f text) := by
        rw [rename, hgiven]
        rfl
      rw [hrenamed]
      cases hempty : text.isEmpty with
      | true =>
          simp only [hempty, if_true] at h ⊢
          rw [← Except.ok.inj h, hunit]
      | false =>
          simp only [hempty, Bool.false_eq_true, if_false] at h ⊢
          have hread := parse_renameText hident hmut h hfresh
          -- an empty text would not be read
          have hwritten : (Ty.renameText fact.paramNames f text).isEmpty = false := by
            rw [Bool.eq_false_iff, ne_eq, String.isEmpty_iff]
            intro hnone
            rw [hnone, Ty.parse_empty] at hread
            cases hread
          rw [hwritten]
          exact hread

omit hident hmut in
theorem duplicateParams_eq_nil (h : fact.paramNames.Nodup) : fact.duplicateParams = [] := by
  have hnone : (fact.paramNames.filter fun n => 1 < fact.paramNames.count n) = [] :=
    List.filter_eq_nil_iff.mpr fun n _ => by
      have := List.nodup_iff_count_le_one.mp h n
      simpa using this
  rw [duplicateParams, hnone]
  rfl

omit hident hmut in
/-- A parameter that is used is used under its new name. -/
theorem mem_referencedParams_rename (hscoped : api.IsScoped) {n : String}
    (h : n ∈ api.referencedParams) : f n ∈ (api.rename f).referencedParams := by
  simp only [Signature.referencedParams, Sequence.mem_distinct, List.mem_flatMap] at h ⊢
  obtain ⟨t, ht, hn⟩ := h
  rw [Signature.types_rename]
  exact ⟨_, List.mem_map_of_mem ht, (hscoped t ht).mem_slots_rename hn⟩

omit hident hmut in
/-- A declaration is accepted under fresh names too, and its signature is the renamed one. -/
theorem signature_rename (h : fact.signature = .ok api) (hfresh : api.IsFresh f) :
    (fact.rename f).signature = .ok (api.rename f) := by
  obtain ⟨hinjOn, hident, hmut, hunused⟩ := hfresh
  rw [map_name_generics h] at hinjOn hident hmut hunused
  have hnodup := nodup_paramNames h
  -- every parameter is used, so that none is reported
  have hused : ∀ n ∈ fact.paramNames, f n ∈ (api.rename f).referencedParams := by
    intro n hn
    refine mem_referencedParams_rename (isScoped_of_signature h) ?_
    simpa [Signature.referencedParams, Sequence.mem_distinct] using exists_mem_slots h n hn
  obtain ⟨inputs, output, hinputs, houtput, rfl⟩ := signature_eq_ok h
  have hnames := paramNames_rename hident
  have hdifferent : (fact.rename f).paramNames.Nodup := by
    rw [hnames]
    exact (List.nodup_map_iff_inj_on hnodup).mpr fun n hn m hm => hinjOn hn hm
  have hinputs' := readInputs_rename hident hmut hinputs fun n hn input hinput =>
    hunused n hn _ (List.mem_append_left _ (List.mem_map_of_mem hinput))
  have houtput' := readOutput_rename hident hmut houtput fun n hn =>
    hunused n hn _ (List.mem_append_right _ (List.mem_singleton_self _))
  have hdeclared : (⟨(fact.rename f).path, (fact.rename f).params,
      inputs.map fun input => (input.1, input.2.rename f), output.rename f⟩ : Signature) =
        Signature.rename f ⟨fact.path, fact.params, inputs, output⟩ := by
    rw [params_rename hident]
    rfl
  have hunreported : ((fact.paramNames.map f).filter fun n =>
      !(Signature.rename f ⟨fact.path, fact.params, inputs, output⟩).referencedParams.contains n) =
        [] := by
    rw [List.filter_eq_nil_iff]
    intro n hn
    obtain ⟨m, hm, rfl⟩ := List.mem_map.mp hn
    simpa using hused m hm
  unfold signature
  rw [duplicateParams_eq_nil hdifferent, hinputs', houtput', hnames, if_neg (by simp)]
  simp only
  rw [hdeclared, hunreported, if_neg (by simp)]

end ApiFact
end FuzzSynth
