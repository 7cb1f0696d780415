/-
The shape of types that were read.

A type read from text has exactly one inner type under every reference, slice and
array, and each of its parameters is a bare name that was in scope.  `Over params` is
the type of such trees; one over no parameters at all is concrete.  `over_of_parse`
says that the reader gives nothing else, and `Over.subst` that replacing every
parameter by a concrete type leaves a concrete type.

What a run looks at in a concrete type is there: it can be written down
(`Over.isComplete`), and asking whether a seed can fill it meets no gap
(`Over.meetsGap_eq_false`).
-/
import FuzzSynth.Proofs.Ty.Reading
import FuzzSynth.Ty.Adapter

namespace FuzzSynth
namespace Ty

/-- A type whose references, slices and arrays have exactly their inner types, and whose
parameters are among the given names. -/
inductive Over (params : List String) : Ty → Prop
  | param {name : String} (h : name ∈ params) : Over params (param name)
  | ref {inner : Ty} (h : Over params inner) : Over params (ref inner)
  | refMut {inner : Ty} (h : Over params inner) : Over params (refMut inner)
  | slice {element : Ty} (h : Over params element) : Over params (slice element)
  | array {tail : String} {element : Ty} (h : Over params element) :
      Over params (node (.array tail) false [element])
  | tuple {members : List Ty} (h : ∀ a ∈ members, Over params a) : Over params (tuple members)
  | named {name : String} {args : List Ty} (h : ∀ a ∈ args, Over params a) :
      Over params (named name args)

/-- A type without parameters. -/
abbrev IsConcrete (t : Ty) : Prop := Over [] t

/-! ## Reading -/

/-- Each form over what was read in its parts. -/
theorem Reads.over {params : List String} {text : List Char} {t : Ty} (h : Reads params text t) :
    Over params t := by
  have hpath : ∀ (name : List Char) {args : List Ty}, (String.ofList name ∈ params → args = []) →
      (∀ a ∈ args, Over params a) → Over params (pathNode params name args) := by
    intro name args hparam hargs
    rcases pathNode_eq hparam with ⟨hmem, heq⟩ | ⟨-, heq⟩ <;> rw [heq]
    · exact .param hmem
    · exact .named hargs
  induction h with
  | ref _ _ _ ih => exact .ref ih
  | refMut _ _ _ ih => exact .refMut ih
  | slice _ _ _ ih => exact .slice ih
  | array _ _ _ _ ih => exact .array ih
  | tuple _ _ _ ih => exact .tuple (List.forall_mem_map.mpr ih)
  | @bare _ name => exact hpath name (fun _ => rfl) (fun _ ha => absurd ha List.not_mem_nil)
  | @applied _ name _ _ _ _ _ _ _ _ hparam _ ih =>
      exact hpath name (fun hmem => by rw [hparam hmem, List.map_nil]) (List.forall_mem_map.mpr ih)

/-- The reader gives types over the parameters in scope and nothing else. -/
theorem over_of_parse {params : List String} {text : String} {t : Ty}
    (h : parse params text = .ok t) : Over params t :=
  (reads_of_parseChars h).over

/-! ## Replacing parameters -/

/-- Replacing every parameter in scope leaves a type over the parameters of what is put in. -/
theorem Over.subst {params others : List String} {fill : String → Option Ty} {t : Ty}
    (h : Over params t) (hfill : ∀ name ∈ params, ∃ u, fill name = some u ∧ Over others u) :
    Over others (t.subst fill) := by
  induction h with
  | @param name hname =>
      obtain ⟨u, hu, hover⟩ := hfill name hname
      simpa [Ty.subst, Former.label, hu] using hover
  | ref _ ih => simpa [Ty.subst, substAll] using Over.ref ih
  | refMut _ ih => simpa [Ty.subst, substAll] using Over.refMut ih
  | slice _ ih => simpa [Ty.subst, substAll] using Over.slice ih
  | array _ ih => simpa [Ty.subst, substAll] using Over.array ih
  | tuple _ ih =>
      simp only [Ty.subst, substAll_eq]
      refine .tuple fun a ha => ?_
      obtain ⟨b, hb, rfl⟩ := List.mem_map.mp ha
      exact ih b hb
  | named _ ih =>
      simp only [Ty.subst, substAll_eq]
      refine .named fun a ha => ?_
      obtain ⟨b, hb, rfl⟩ := List.mem_map.mp ha
      exact ih b hb

/-! ## Concrete types -/

mutual

/-- A type without parameters has no node that stands for one. -/
theorem isGeneric_eq_false_iff : (t : Ty) → (t.isGeneric = false ↔ ∀ n ∈ t.nodes, n.isParam = false)
  | Ty.node f p as => by
      simp [isGeneric, nodes, isParam, anyGeneric_eq_false_iff as]

theorem anyGeneric_eq_false_iff :
    (as : List Ty) → (anyGeneric as = false ↔ ∀ n ∈ nodesOfAll as, n.isParam = false)
  | [] => by simp [anyGeneric, nodesOfAll]
  | a :: as => by
      simp [anyGeneric, nodesOfAll, isGeneric_eq_false_iff a, anyGeneric_eq_false_iff as, or_imp,
        forall_and]

end

theorem Over.isComplete {params : List String} {t : Ty} (h : Over params t) :
    t.isComplete = true := by
  induction h with
  | param => simp [Ty.isComplete]
  | ref _ ih => simpa [Ty.isComplete, allComplete] using ih
  | refMut _ ih => simpa [Ty.isComplete, allComplete] using ih
  | slice _ ih => simpa [Ty.isComplete, allComplete] using ih
  | array _ ih => simpa [Ty.isComplete, allComplete] using ih
  | tuple _ ih => simpa [Ty.isComplete, allComplete_eq] using ih
  | named _ ih => simpa [Ty.isComplete, allComplete_eq] using ih

/-- A type over some parameters can be written down. -/
theorem Over.render?_eq {params : List String} {t : Ty} (h : Over params t) :
    t.render? = .ok t.render := by
  rw [Ty.render?, if_pos h.isComplete]

theorem IsConcrete.isGeneric_eq_false {t : Ty} (h : t.IsConcrete) : t.isGeneric = false := by
  induction h with
  | param hname => simp at hname
  | ref _ ih => simpa [isGeneric, anyGeneric] using ih
  | refMut _ ih => simpa [isGeneric, anyGeneric] using ih
  | slice _ ih => simpa [isGeneric, anyGeneric] using ih
  | array _ ih => simpa [isGeneric, anyGeneric] using ih
  | tuple _ ih => simpa [isGeneric, anyGeneric_eq] using ih
  | named _ ih => simpa [isGeneric, anyGeneric_eq] using ih

/-- A type over some parameters in which no parameter occurs is concrete. -/
theorem Over.isConcrete {params : List String} (h : Over params t) (hplain : t.isGeneric = false) :
    t.IsConcrete := by
  induction h with
  | param => cases hplain
  | ref _ ih => exact .ref (ih (by simpa [isGeneric, anyGeneric] using hplain))
  | refMut _ ih => exact .refMut (ih (by simpa [isGeneric, anyGeneric] using hplain))
  | slice _ ih => exact .slice (ih (by simpa [isGeneric, anyGeneric] using hplain))
  | array _ ih => exact .array (ih (by simpa [isGeneric, anyGeneric] using hplain))
  | tuple _ ih =>
      simp only [isGeneric, anyGeneric_eq, Bool.false_or, List.any_eq_false] at hplain
      exact .tuple fun a ha => ih a ha (by simpa using hplain a ha)
  | named _ ih =>
      simp only [isGeneric, anyGeneric_eq, Bool.false_or, List.any_eq_false] at hplain
      exact .named fun a ha => ih a ha (by simpa using hplain a ha)

/-! ## Seeds -/

/-- No question about a concrete type, nor about the elements of a slice, meets a gap.  The
second half is what the references need, which look through the slice they refer to. -/
theorem IsConcrete.noGap {t : Ty} (h : t.IsConcrete) :
    t.meetsGap = false ∧ ∀ element, t = slice element → element.meetsGap = false := by
  induction h with
  | param hname => simp at hname
  | ref hinner ih =>
      refine ⟨?_, by simp⟩
      cases hinner with
      | slice _ => simpa [meetsGap] using ih.2 _ rfl
      | param hname => simp at hname
      | array _ => simp [meetsGap]
      | ref _ | refMut _ | tuple _ | named _ => simpa [meetsGap] using ih.1
  | refMut hinner ih =>
      refine ⟨?_, by simp⟩
      cases hinner with
      | slice _ => simpa [meetsGap] using ih.2 _ rfl
      | param hname => simp at hname
      | array _ => simp [meetsGap]
      | ref _ | refMut _ | tuple _ | named _ => simpa [meetsGap] using ih.1
  | slice _ ih =>
      refine ⟨by simp [meetsGap], fun element he => ?_⟩
      obtain rfl : _ = element := by simpa using he
      exact ih.1
  | array => simp [meetsGap]
  | @tuple members _ ih =>
      refine ⟨?_, by simp⟩
      simp only [meetsGap]
      -- the members are asked one after the other
      induction members with
      | nil => simp [meetsGapAmong]
      | cons a rest ihr =>
          have hrest := ihr (fun b hb => by simp_all) fun b hb => ih b (List.mem_cons_of_mem _ hb)
          simp [meetsGapAmong, (ih a List.mem_cons_self).1, hrest]
  | @named name args _ ih =>
      refine ⟨?_, by simp⟩
      match args with
      | [] => simp [meetsGap]
      | [a] => simp [meetsGap, (ih a List.mem_cons_self).1]
      | _ :: _ :: _ => simp [meetsGap]

theorem IsConcrete.meetsGap_eq_false {t : Ty} (h : t.IsConcrete) : t.meetsGap = false :=
  h.noGap.1

/-- The layout of a concrete type is found without a gap. -/
theorem IsConcrete.seedLayout?_eq {t : Ty} (h : t.IsConcrete) :
    t.seedLayout? = .ok t.seedLayout := by
  simp [seedLayout?, h.meetsGap_eq_false]

/-- Members have layouts one after the other if the first has one and the others have. -/
theorem isSome_layoutAll?_cons (member : Ty) (members : List Ty) :
    (layoutAll? (member :: members)).isSome =
      (member.layout?.isSome && member.isByValue && (layoutAll? members).isSome) := by
  rw [layoutAll?]
  cases member.isByValue with
  | false => simp
  | true => cases member.layout? <;> cases layoutAll? members <;> simp

/-- Bytes decode to a type exactly if it has a layout.  The induction is on the questions
that `decodes` asks, which look through a slice under a reference. -/
theorem isSome_layout? (t : Ty) : t.layout?.isSome = t.decodes := by
  apply decodes.induct (fun t => t.layout?.isSome = t.decodes)
    (fun as => (layoutAll? as).isSome = decodesAll as)
  case case1 =>
    intro name p
    simp [layout?, decodes]
  case case2 =>
    intro name p inner ih
    simp only [layout?, decodes, ← ih]
    cases optionPaths.contains name <;> simp
  -- references to slices, to `str` and to other types
  case case3 =>
    intro p q element _ _ ih
    simp [layout?, decodes, ih]
  case case4 =>
    intro p inner _ hslice ih
    rw [layout?, decodes, ← ih]
    · by_cases h : inner = str <;> simp [h]
    · exact hslice
    · exact hslice
  -- the same for mutable references, where `str` is no exception
  case case5 =>
    intro p q element _ _ ih
    simp [layout?, decodes, ih]
  case case6 =>
    intro p inner _ hslice ih
    rw [layout?, decodes, ih] <;> exact hslice
  case case7 =>
    intro p member members ih ihs
    rw [layout?, isSome_layoutAll?_cons, decodes, ih, ihs]
  case case8 =>
    intro t
    simp_all [layout?, decodes]
  case case9 =>
    simp [layoutAll?, decodesAll]
  case case10 =>
    intro member members ih ihs
    rw [isSome_layoutAll?_cons, decodesAll, ih, ihs]

/-- A seed can fill exactly the types that have a seed layout. -/
theorem isSome_seedLayout (t : Ty) : t.seedLayout.isSome = t.isFuzzable := by
  rw [isFuzzable, ← isSome_layout?, seedLayout]
  cases t.isGeneric <;> simp

/-! ## References -/

/-- What is borrowed for a concrete type is the type it refers to. -/
theorem IsConcrete.eq_of_borrowed? {t inner : Ty} {a : Adapter} (h : t.IsConcrete)
    (hb : t.borrowed? = some (inner, a)) :
    a = .borrow ∧ t = ref inner ∨ a = .borrowMut ∧ t = refMut inner := by
  cases h with
  | ref _ =>
      obtain ⟨rfl, rfl⟩ : _ ∧ _ := by simpa [borrowed?] using hb
      exact .inl ⟨rfl, rfl⟩
  | refMut _ =>
      obtain ⟨rfl, rfl⟩ : _ ∧ _ := by simpa [borrowed?] using hb
      exact .inr ⟨rfl, rfl⟩
  | _ => simp [borrowed?] at hb

/-- A concrete reference has the type it refers to. -/
theorem IsConcrete.isSome_borrowed? {t : Ty} (h : t.IsConcrete) (href : t.isReference = true) :
    t.borrowed?.isSome = true := by
  cases h with
  | ref _ | refMut _ => simp [borrowed?]
  | _ => simp [isReference, former, Former.isReference] at href

/-! ## Questions to a type -/

/-- Whatever is asked of a type has an answer: how it is written, how a seed fills it, and
what it refers to if it is a reference. -/
structure Answers (t : Ty) : Prop where
  render : t.render? = .ok t.render
  layout : t.seedLayout? = .ok t.seedLayout
  inner (href : t.isReference = true) : t.borrowed?.isSome = true

theorem IsConcrete.answers {t : Ty} (h : t.IsConcrete) : t.Answers where
  render := Over.render?_eq h
  layout := h.seedLayout?_eq
  inner := h.isSome_borrowed?

end Ty
end FuzzSynth
