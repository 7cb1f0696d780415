/-
Instances are concrete.

The candidates of a pool made from facts were read from texts, without parameters in scope
(`Pool.isRead_ofFacts`), so they are concrete types.  A substitution that the pool gives for a
signature has a candidate for each parameter, so in a scoped signature it replaces every
parameter by a concrete type (`Signature.IsScoped.isConcrete_of_mem_window`).
-/
import FuzzSynth.Proofs.Graph.Producers
import FuzzSynth.Proofs.Instance.Enumeration

namespace FuzzSynth

/-! ## Pools -/

/-- Every candidate of a pool is a concrete type. -/
def Pool.IsConcrete (pool : Pool) : Prop :=
  ∀ c ∈ pool.entries, c.type.IsConcrete

/-- Every candidate of a pool is a type that some text gives. -/
def Pool.IsRead (pool : Pool) : Prop :=
  ∀ c ∈ pool.entries, ∃ text, Ty.parse [] text = .ok c.type

theorem mem_placeCandidate {c d : Candidate} {entries : List Candidate}
    (h : d ∈ placeCandidate c entries) : d = c ∨ d ∈ entries := by
  induction entries with
  | nil => exact .inl (List.mem_singleton.mp h)
  | cons e rest ih =>
      unfold placeCandidate at h
      split at h
      · rcases List.mem_cons.mp h with h | h
        · exact .inl h
        · exact .inr (List.mem_cons_of_mem e h)
      · rcases List.mem_cons.mp h with rfl | h
        · exact .inr List.mem_cons_self
        · exact (ih h).imp_right (List.mem_cons_of_mem e)

namespace Pool

variable {pool : Pool}

theorem IsRead.isConcrete (h : pool.IsRead) : pool.IsConcrete := by
  intro c hc
  obtain ⟨text, hparse⟩ := h c hc
  exact Ty.over_of_parse hparse

theorem IsRead.place (h : pool.IsRead) {c : Candidate} {text : String}
    (hparse : Ty.parse [] text = .ok c.type) : (pool.place c).IsRead := by
  intro d hd
  rcases mem_placeCandidate hd with rfl | hd
  · exact ⟨text, hparse⟩
  · exact h d hd

theorem isRead_empty : empty.IsRead := by
  intro c hc
  cases hc

/-- The name of a built-in type is read as that type. -/
theorem parse_builtinTypes :
    ∀ entry ∈ builtinTypes, Ty.parse [] entry.1 = .ok (.named entry.1 []) := by
  decide +kernel

theorem isRead_builtin : builtin.IsRead := by
  -- placing types that are read as their names keeps any pool read
  have hfold : ∀ (entries : List (String × List String)),
      (∀ entry ∈ entries, Ty.parse [] entry.1 = .ok (.named entry.1 [])) →
      ∀ pool : Pool, pool.IsRead →
        (entries.foldl (fun pool entry =>
          pool.place (.offering (.named entry.1 []) (.of entry.2))) pool).IsRead := by
    intro entries
    induction entries with
    | nil => exact fun _ pool h => h
    | cons entry rest ih =>
        intro hparse pool h
        obtain ⟨hentry, hrest⟩ := List.forall_mem_cons.mp hparse
        exact ih hrest _ (h.place hentry)
  exact hfold builtinTypes parse_builtinTypes empty isRead_empty

theorem register_eq_ok_iff {type : Ty} {bounds : BoundSet} {next : Pool} :
    pool.register type bounds = .ok next ↔
      type.isGeneric = false ∧ pool.place (.offering type bounds) = next := by
  unfold register
  cases type.isGeneric <;> simp

theorem registerText_eq_ok_iff {text : String} {bounds : BoundSet} {next : Pool} :
    pool.registerText text bounds = .ok next ↔
      ∃ type, Ty.parse [] text = .ok type ∧ pool.register type bounds = .ok next := by
  unfold registerText
  cases Ty.parse [] text <;> simp

theorem isRead_of_registerText {text : String} {bounds : BoundSet} {pool' : Pool}
    (h : pool.IsRead) (hregister : pool.registerText text bounds = .ok pool') :
    pool'.IsRead := by
  obtain ⟨type, hparse, hregister⟩ := registerText_eq_ok_iff.mp hregister
  obtain ⟨-, rfl⟩ := register_eq_ok_iff.mp hregister
  exact h.place hparse

/-- The candidates of the pool of any facts were read. -/
theorem isRead_ofFacts (facts : List CandidateFact) (builtins : Bool) :
    (ofFacts facts builtins).pool.IsRead := by
  -- a fact that is not a type leaves the pool as it was
  have hfold : ∀ (facts : List CandidateFact) (w : Widened), w.pool.IsRead →
      (facts.foldl Widened.add w).pool.IsRead := by
    intro facts
    induction facts with
    | nil => exact fun w h => h
    | cons fact rest ih =>
        intro w h
        refine ih _ ?_
        unfold Widened.add
        split
        · next hregister => exact isRead_of_registerText h hregister
        · exact h
  refine hfold facts _ ?_
  cases builtins with
  | false => exact isRead_empty
  | true => exact isRead_builtin

/-- The pool of any facts is concrete. -/
theorem isConcrete_ofFacts (facts : List CandidateFact) (builtins : Bool) :
    (ofFacts facts builtins).pool.IsConcrete :=
  (isRead_ofFacts facts builtins).isConcrete

end Pool

/-! ## Instances -/

theorem Signature.types_subst (api : Signature) (σ : Substitution) :
    (api.subst σ).types = api.types.map fun t => t.subst σ.typeFor := by
  simp [types, inputTypes, subst]

namespace Signature

variable {api : Signature}

theorem IsScoped.isConcrete_of_resolves (h : api.IsScoped) {pool : Pool} (hpool : pool.IsConcrete)
    {σ : Substitution} (hσ : σ.Resolves pool api.generics) : (api.instanceOf σ).IsConcrete := by
  intro t ht
  have ht : t ∈ (api.subst σ).types := ht
  rw [types_subst] at ht
  obtain ⟨declared, hdeclared, rfl⟩ := List.mem_map.mp ht
  refine (h declared hdeclared).subst fun name hname => ?_
  obtain ⟨p, c, hpair, -, hc⟩ := hσ.exists_typeFor hname
  exact ⟨c.type, hc, hpool c (hσ.registered _ hpair)⟩

/-- Every substitution in a window gives a concrete instance. -/
theorem IsScoped.isConcrete_of_mem_window (h : api.IsScoped) {pool : Pool}
    (hpool : pool.IsConcrete) {size : Nat} {window : List Substitution}
    (hwindow : pool.window size api = .ok window) {σ : Substitution} (hσ : σ ∈ window) :
    (api.instanceOf σ).IsConcrete :=
  h.isConcrete_of_resolves hpool (Pool.resolves_of_mem_window hwindow hσ)

end Signature

end FuzzSynth
