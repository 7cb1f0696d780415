/-
Signatures that were read from facts.

A signature that a fact declares is scoped: its types are over its own parameters, in the
sense of `Ty.Over`.  The parameters have different names, and each of them occurs in some type
(`ApiFact.exists_mem_slots`).  The surface of a list of facts has the signatures of the readable
ones in order (`apis_ofDocument`), and a diagnostic for each of the others
(`rejected_ofDocument`).
-/
import Mathlib.Data.List.Nodup
import FuzzSynth.Proofs.Ty.Shape
import FuzzSynth.Signature.Surface

namespace FuzzSynth

/-- The types of a signature are over its own parameters. -/
def Signature.IsScoped (api : Signature) : Prop :=
  ∀ t ∈ api.types, t.Over (api.generics.map GenericParam.name)

namespace ApiFact

variable {fact : ApiFact} {api : Signature}

/-! ## Reading one fact -/

theorem map_name_params (fact : ApiFact) : fact.params.map GenericParam.name = fact.paramNames := by
  apply List.ext_getElem?
  intro i
  simp only [params, paramNames, List.getElem?_map, List.getElem?_mapIdx, Option.map_map]
  rfl

/-- An input that was read keeps its name. -/
theorem parse_of_readInput {params : List String} {given : InputFact} {input : String × Ty}
    (h : (do let t ← Ty.parse params given.type; pure (given.name, t)) = Except.ok input) :
    input.1 = given.name ∧ Ty.parse params given.type = .ok input.2 := by
  cases hparse : Ty.parse params given.type with
  | error e => simp [hparse, bind, Except.bind] at h
  | ok t =>
      obtain rfl : (given.name, t) = input := by
        simpa [hparse, bind, Except.bind, pure, Except.pure] using h
      exact ⟨rfl, rfl⟩

/-- An output is read from a text, or is the unit. -/
theorem parse_of_readOutput {output : Ty} (h : fact.readOutput = .ok output) :
    output = .unit ∨ ∃ text, Ty.parse fact.paramNames text = .ok output := by
  unfold readOutput at h
  split at h
  · exact .inl (Except.ok.inj h).symm
  · next text _ =>
      split at h
      · exact .inl (Except.ok.inj h).symm
      · exact .inr ⟨text, h⟩

theorem over_of_readOutput {output : Ty} (h : fact.readOutput = .ok output) :
    output.Over fact.paramNames := by
  rcases parse_of_readOutput h with rfl | ⟨text, hparse⟩
  · exact .tuple (by simp)
  · exact Ty.over_of_parse hparse

/-- What a fact has to be for a signature, and which signature it declares then. -/
theorem signature_eq_ok (h : fact.signature = .ok api) :
    ∃ inputs output, fact.readInputs = .ok inputs ∧ fact.readOutput = .ok output ∧
      api = ⟨fact.path, fact.params, inputs, output⟩ := by
  unfold signature at h
  split at h
  · cases h
  · split at h
    · cases h
    · cases h
    · next inputs output hinputs houtput =>
        simp only at h
        split at h
        · cases h
        · exact ⟨inputs, output, hinputs, houtput, (Except.ok.inj h).symm⟩

theorem path_of_signature (h : fact.signature = .ok api) : api.path = fact.path := by
  obtain ⟨inputs, output, -, -, rfl⟩ := signature_eq_ok h
  rfl

theorem owner_of_signature (h : fact.signature = .ok api) :
    ∀ param ∈ api.generics, param.owner = fact.path := by
  obtain ⟨inputs, output, -, -, rfl⟩ := signature_eq_ok h
  intro param hparam
  obtain ⟨i, hi⟩ := List.mem_iff_getElem?.mp hparam
  obtain ⟨g, -, rfl⟩ := Option.map_eq_some_iff.mp (List.getElem?_mapIdx .. ▸ hi)
  rfl

theorem map_name_generics (h : fact.signature = .ok api) :
    api.generics.map GenericParam.name = fact.paramNames := by
  obtain ⟨inputs, output, -, -, rfl⟩ := signature_eq_ok h
  exact fact.map_name_params

/-- Every type of a signature is read from a text, or is the unit. -/
theorem parse_of_mem_types (h : fact.signature = .ok api) :
    ∀ t ∈ api.types, t = .unit ∨ ∃ text, Ty.parse fact.paramNames text = .ok t := by
  obtain ⟨inputs, output, hinputs, houtput, rfl⟩ := signature_eq_ok h
  intro t ht
  rcases List.mem_append.mp ht with ht | ht
  · obtain ⟨input, hinput, rfl⟩ := List.mem_map.mp ht
    obtain ⟨given, -, hgiven⟩ := Ty.exists_of_mem_mapM_ok hinputs input hinput
    exact .inr ⟨given.type, (parse_of_readInput hgiven).2⟩
  · obtain rfl := List.mem_singleton.mp ht
    exact parse_of_readOutput houtput

theorem isScoped_of_signature (h : fact.signature = .ok api) : api.IsScoped := by
  intro t ht
  rw [map_name_generics h]
  rcases parse_of_mem_types h t ht with rfl | ⟨text, hparse⟩
  · exact .tuple (by simp)
  · exact Ty.over_of_parse hparse

/-- A fact that declares a signature names each parameter once. -/
theorem nodup_paramNames (h : fact.signature = .ok api) :
    fact.paramNames.Nodup := by
  rw [List.nodup_iff_count_le_one]
  intro name
  by_contra hcount
  -- a name that is declared again is reported
  have hname : name ∈ fact.duplicateParams := by
    rw [duplicateParams, Text.mem_sortedNames, List.mem_filter]
    have hpos : 0 < fact.paramNames.count name := by omega
    exact ⟨List.count_pos_iff.mp hpos, by simpa using hcount⟩
  unfold signature at h
  rw [if_pos (List.ne_nil_of_mem hname)] at h
  cases h

/-- Every declared parameter occurs in some type of the signature. -/
theorem exists_mem_slots (h : fact.signature = .ok api) :
    ∀ name ∈ fact.paramNames, ∃ t ∈ api.types, name ∈ t.slots := by
  unfold signature at h
  split at h
  · cases h
  · split at h
    · cases h
    · cases h
    · simp only at h
      split at h
      · cases h
      · next hunused =>
          -- otherwise the parameter would be reported
          obtain rfl := Except.ok.inj h
          intro name hname
          have hused := List.filter_eq_nil_iff.mp (not_not.mp hunused) name hname
          simpa [Signature.referencedParams, Sequence.mem_distinct] using hused

/-- The signature of a fact, if it declares one. -/
def signature? (fact : ApiFact) : Option Signature :=
  fact.signature.toOption

theorem signature?_eq_some_iff : fact.signature? = some api ↔ fact.signature = .ok api := by
  unfold signature?
  cases fact.signature <;> simp [Except.toOption]

theorem signature?_eq_none_of_error {e : SignatureError} (h : fact.signature = .error e) :
    fact.signature? = none := by
  simp [signature?, h, Except.toOption]

/-- The diagnostic for a fact, if it declares no signature. -/
def rejection? (fact : ApiFact) : Option Diagnostic :=
  match fact.signature with
  | .ok _ => none
  | .error e => some (fact.diagnostic e)

end ApiFact

/-! ## Reading all facts -/

namespace Surface

theorem add_eq (surface : Surface) (fact : ApiFact) :
    surface.add fact =
      ⟨surface.crate, surface.apis ++ fact.signature?.toList,
        surface.rejected ++ fact.rejection?.toList⟩ := by
  unfold add ApiFact.signature? ApiFact.rejection?
  cases fact.signature <;> simp [Except.toOption]

theorem foldl_add (facts : List ApiFact) (surface : Surface) :
    facts.foldl add surface =
      ⟨surface.crate, surface.apis ++ facts.filterMap ApiFact.signature?,
        surface.rejected ++ facts.filterMap ApiFact.rejection?⟩ := by
  induction facts generalizing surface with
  | nil => simp
  | cons fact facts ih =>
      rw [List.foldl_cons, ih, add_eq, List.filterMap_cons, List.filterMap_cons]
      cases fact.signature? <;> cases fact.rejection? <;> simp

/-- A surface has the signatures of the facts that declare one, in order. -/
theorem apis_ofDocument (document : Document) :
    (ofDocument document).apis = document.apis.filterMap ApiFact.signature? := by
  rw [ofDocument, ofFacts, foldl_add]
  rfl

/-- A surface has a diagnostic for each fact that declares no signature. -/
theorem rejected_ofDocument (document : Document) :
    (ofDocument document).rejected = document.apis.filterMap ApiFact.rejection? := by
  rw [ofDocument, ofFacts, foldl_add]
  rfl

/-- The signatures of a surface are those that its facts declare. -/
theorem mem_apis_ofDocument_iff {document : Document} {api : Signature} :
    api ∈ (ofDocument document).apis ↔ ∃ fact ∈ document.apis, fact.signature = .ok api := by
  simp only [apis_ofDocument, List.mem_filterMap, ApiFact.signature?_eq_some_iff]

theorem isScoped_of_mem_apis {document : Document} {api : Signature}
    (h : api ∈ (ofDocument document).apis) : api.IsScoped := by
  obtain ⟨fact, -, hsignature⟩ := mem_apis_ofDocument_iff.mp h
  exact ApiFact.isScoped_of_signature hsignature

end Surface
end FuzzSynth
