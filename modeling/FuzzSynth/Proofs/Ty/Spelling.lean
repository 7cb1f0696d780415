/-
How types that were read are spelled.

`Spelled params` are the types whose names are path names, whose array lengths are numerals,
and whose parameters are names in scope, as no other named type is.  The reader gives no
other types (`spelled_of_parseChars`), and it gives none in which a shared reference stands
in front of a path that begins with `mut` (`refersToMut_of_parseChars`), since `&mut` is the
other kind of reference.

`Spelled.subst` says that replacing the parameters of a type by types spelled without
parameters gives a type spelled without parameters.  It may refer to `mut`, though.
-/
import Mathlib.Data.List.DropRight
import FuzzSynth.Proofs.Text.Names
import FuzzSynth.Proofs.Text.Trimming
import FuzzSynth.Proofs.Ty.Shape

namespace FuzzSynth
namespace Ty

open FuzzSynth.Text

/-- A type as it can be read when these parameters are in scope. -/
inductive Spelled (params : List String) : Ty → Prop
  | param {name : String} (hname : IsPathName name.toList) (h : name ∈ params) :
      Spelled params (param name)
  | ref {inner : Ty} (h : Spelled params inner) : Spelled params (ref inner)
  | refMut {inner : Ty} (h : Spelled params inner) : Spelled params (refMut inner)
  | slice {element : Ty} (h : Spelled params element) : Spelled params (slice element)
  | array {length : List Char} {element : Ty} (hlength : isNumeral length = true)
      (h : Spelled params element) : Spelled params (node (.ofLength length) false [element])
  | tuple {members : List Ty} (h : ∀ a ∈ members, Spelled params a) : Spelled params (tuple members)
  | named {name : String} {args : List Ty} (hname : IsPathName name.toList) (hfree : name ∉ params)
      (h : ∀ a ∈ args, Spelled params a) : Spelled params (named name args)

/-! ## References to `mut` -/

/-- The first name of a path. -/
def firstName (path : String) : List Char :=
  path.toList.takeWhile (· != ':')

/-- Whether a type is a path that begins with `mut`. -/
def namesMut : Ty → Bool
  | node (.path name) _ _ => firstName name == ['m', 'u', 't']
  | _ => false

/-- Whether a node is a shared reference to a path that begins with `mut`. -/
def isRefToMut : Ty → Bool
  | ref inner => inner.namesMut
  | _ => false

/-- Whether there is a shared reference to a path that begins with `mut` in a type. -/
def refersToMut (t : Ty) : Bool :=
  t.nodes.any isRefToMut

theorem refersToMut_eq_false_iff {f : Former} {p : Bool} {as : List Ty} :
    (node f p as).refersToMut = false ↔
      (node f p as).isRefToMut = false ∧ ∀ a ∈ as, a.refersToMut = false := by
  simp [refersToMut, nodes, nodesOfAll_eq]

/-! ## Reading -/

theorem isPathName_toList {cs name rest : List Char} (h : pathName? cs = some (name, rest)) :
    IsPathName (String.ofList name).toList := by
  rw [String.toList_ofList]
  exact isPathName_of_pathName? h

/-- Each form over what was read in its parts, as for `Reads.over`. -/
theorem Reads.spelled {params : List String} {text : List Char} {t : Ty} (h : Reads params text t) :
    Spelled params t := by
  have hpath : ∀ {cs name rest : List Char} {args : List Ty}, pathName? cs = some (name, rest) →
      (String.ofList name ∈ params → args = []) → (∀ a ∈ args, Spelled params a) →
        Spelled params (pathNode params name args) := by
    intro cs name rest args hname hparam hargs
    rcases pathNode_eq hparam with ⟨hmem, heq⟩ | ⟨hfree, heq⟩ <;> rw [heq]
    · exact .param (isPathName_toList hname) hmem
    · exact .named (isPathName_toList hname) hfree hargs
  induction h with
  | ref _ _ _ ih => exact .ref ih
  | refMut _ _ _ ih => exact .refMut ih
  | slice _ _ _ ih => exact .slice ih
  | array _ _ hlength _ ih => exact .array hlength ih
  | tuple _ _ _ ih => exact .tuple (List.forall_mem_map.mpr ih)
  | bare hname => exact hpath hname (fun _ => rfl) (fun _ ha => absurd ha List.not_mem_nil)
  | applied hname _ _ _ hparam _ ih =>
      exact hpath hname (fun hmem => by rw [hparam hmem, List.map_nil]) (List.forall_mem_map.mpr ih)

theorem spelled_of_parseChars {params : List String} {text : List Char} {t : Ty}
    (h : parseChars params text = .ok t) : Spelled params t :=
  (reads_of_parseChars h).spelled

/-! ### What stands behind `&` -/

theorem trimLeft_dropLifetime (cs : List Char) :
    trimLeft (dropLifetime (trimLeft cs)) = dropLifetime (trimLeft cs) := by
  have hidem : ∀ cs : List Char, trimLeft (trimLeft cs) = trimLeft cs := fun cs =>
    List.dropWhile_idempotent ..
  generalize hcs : trimLeft cs = ds
  unfold dropLifetime
  split
  · split
    · exact hidem _
    · rw [← hcs, hidem]
  · rw [← hcs, hidem]

/-- A path that was read stands at the beginning of its text. -/
theorem Reads.exists_pathName? {params : List String} {text : List Char} {t : Ty} {name : String}
    (h : Reads params text t) (hpath : t.former = .path name) :
    ∃ rest, pathName? (trim text) = some (name.toList, rest) ∧ pathEnd rest ≠ .junk := by
  cases h with
  -- references, slices, arrays and tuples are no paths
  | ref | refMut | slice | array | tuple => cases hpath
  | bare hname hend =>
      obtain rfl := Former.path.inj hpath
      exact ⟨_, by rw [hname, String.toList_ofList], by simp [hend]⟩
  | applied hname hend =>
      obtain rfl := Former.path.inj hpath
      exact ⟨_, by rw [hname, String.toList_ofList], by simp [hend]⟩

/-- What stands behind a path that was read is no part of a word. -/
theorem endsWord_of_pathEnd {rest blanks : List Char} (h : pathEnd rest ≠ .junk)
    (hblanks : IsBlankText blanks) : endsWord (rest ++ blanks) = true := by
  have hblank : ∀ {c : Char} {cs : List Char}, isBlank c = true → endsWord (c :: cs) = true :=
    fun hc => by rw [endsWord, isWordChar_of_isBlank hc]; rfl
  cases rest with
  | nil =>
      cases blanks with
      | nil => rfl
      | cons c cs => exact hblank (hblanks c List.mem_cons_self)
  | cons c cs =>
      cases hc : isBlank c with
      | true => exact hblank hc
      | false =>
          -- a character that is not blank can only open the arguments
          have htrim : trimLeft (c :: cs) = c :: cs := by simp [trimLeft, hc]
          unfold pathEnd at h
          rw [htrim] at h
          split at h
          · simp_all
          · next heq =>
              obtain ⟨rfl, -⟩ := List.cons.inj heq
              have hopener : isWordChar '<' = false := by decide +kernel
              rw [List.cons_append, endsWord, hopener]
              rfl
          · exact absurd rfl h

/-- A text that is read as a path and is not taken for `mut` does not begin with `mut`. -/
theorem Reads.namesMut_eq_false {params : List String} {text : List Char} {t : Ty}
    (h : Reads params text t) (htrim : trimLeft text = text) (hmut : afterMut? text = none) :
    t.namesMut = false := by
  obtain ⟨f, p, args⟩ := t
  cases f with
  | path name =>
      obtain ⟨rest, hname, hend⟩ := h.exists_pathName? rfl
      obtain ⟨blanks, htext, hblanks⟩ := exists_trimRight_append text
      rw [trim, htrim] at hname
      rw [← htext, ← append_of_pathName? hname, List.append_assoc] at hmut
      have hword := endsWord_of_pathEnd hend hblanks
      cases hnames : (node (.path name) p args).namesMut with
      | false => rfl
      | true =>
          have hfirst : firstName name = ['m', 'u', 't'] := by simpa [namesMut] using hnames
          -- the path is `mut` alone, or `mut` and more of a path behind `::`
          have hsplit : ['m', 'u', 't'] ++ name.toList.dropWhile (· != ':') = name.toList := by
            rw [← hfirst, firstName, List.takeWhile_append_dropWhile]
          have hafter : endsWord (name.toList.dropWhile (· != ':') ++ (rest ++ blanks)) = true := by
            cases hmore : name.toList.dropWhile (· != ':') with
            | nil => exact hword
            | cons c more =>
                have hc : c = ':' := by
                  simpa [hmore] using List.head?_dropWhile_not (· != ':') name.toList
                have hcolon : isWordChar ':' = false := by decide +kernel
                rw [List.cons_append, endsWord, hc, hcolon]
                rfl
          rw [← hsplit, List.append_assoc] at hmut
          simp [afterMut?, hafter] at hmut
  | _ => rfl

/-- The inner type of a shared reference is read where no `mut` stands. -/
theorem Reads.refersToMut_eq_false {params : List String} {text : List Char} {t : Ty}
    (h : Reads params text t) : t.refersToMut = false := by
  induction h with
  | @ref _ rest _ _ hmut h ih =>
      have hinner := h.namesMut_eq_false (trimLeft_dropLifetime rest) hmut
      exact refersToMut_eq_false_iff.mpr ⟨hinner, List.forall_mem_singleton.mpr ih⟩
  | refMut _ _ _ ih | slice _ _ _ ih | array _ _ _ _ ih =>
      exact refersToMut_eq_false_iff.mpr ⟨rfl, List.forall_mem_singleton.mpr ih⟩
  | tuple _ _ _ ih => exact refersToMut_eq_false_iff.mpr ⟨rfl, List.forall_mem_map.mpr ih⟩
  | bare => exact refersToMut_eq_false_iff.mpr ⟨rfl, fun _ ha => absurd ha List.not_mem_nil⟩
  | applied _ _ _ _ _ _ ih => exact refersToMut_eq_false_iff.mpr ⟨rfl, List.forall_mem_map.mpr ih⟩

/-- The reader gives no shared reference to a path that begins with `mut`. -/
theorem refersToMut_of_parseChars {params : List String} {text : List Char} {t : Ty}
    (h : parseChars params text = .ok t) : t.refersToMut = false :=
  (reads_of_parseChars h).refersToMut_eq_false

/-! ## Replacing parameters -/

theorem mem_nodes_node {f : Former} {p : Bool} {as : List Ty} {n : Ty} :
    n ∈ (node f p as).nodes ↔ n = node f p as ∨ ∃ a ∈ as, n ∈ a.nodes := by
  rw [nodes, nodesOfAll_eq, List.mem_cons, List.mem_flatMap]

theorem mem_slots {t : Ty} {name : String} :
    name ∈ t.slots ↔ ∃ n ∈ t.nodes, n.isParam = true ∧ n.label = name := by
  simp [slots, Sequence.mem_distinct, and_assoc]

theorem slots_param (name : String) : (param name).slots = [name] := rfl

theorem mem_slots_node {f : Former} {as : List Ty} {name : String} :
    name ∈ (node f false as).slots ↔ ∃ a ∈ as, name ∈ a.slots := by
  simp only [mem_slots, mem_nodes_node]
  constructor
  · rintro ⟨n, rfl | ⟨a, ha, hn⟩, hparam, hname⟩
    · cases hparam
    · exact ⟨a, ha, n, hn, hparam, hname⟩
  · rintro ⟨a, ha, n, hn, hparam, hname⟩
    exact ⟨n, .inr ⟨a, ha, hn⟩, hparam, hname⟩

/-- Replacing every parameter by a type spelled without parameters. -/
theorem Spelled.subst {params : List String} {t : Ty} (h : Spelled params t)
    {fill : String → Option Ty}
    (hfill : ∀ name ∈ t.slots, ∃ u, fill name = some u ∧ Spelled [] u) :
    Spelled [] (t.subst fill) := by
  have hargs : ∀ {f : Former} {as : List Ty},
      (∀ name ∈ (node f false as).slots, ∃ u, fill name = some u ∧ Spelled [] u) →
      ∀ a ∈ as, ∀ name ∈ a.slots, ∃ u, fill name = some u ∧ Spelled [] u :=
    fun hfill a ha name hname => hfill name (mem_slots_node.mpr ⟨a, ha, hname⟩)
  induction h with
  | @param name hname hmem =>
      obtain ⟨u, hu, hspelled⟩ := hfill name (by simp [slots_param])
      simpa [Ty.subst, Former.label, hu] using hspelled
  | ref _ ih =>
      simpa [Ty.subst, substAll] using Spelled.ref (ih (hargs hfill _ List.mem_cons_self))
  | refMut _ ih =>
      simpa [Ty.subst, substAll] using Spelled.refMut (ih (hargs hfill _ List.mem_cons_self))
  | slice _ ih =>
      simpa [Ty.subst, substAll] using Spelled.slice (ih (hargs hfill _ List.mem_cons_self))
  | array hlength _ ih =>
      simpa [Ty.subst, substAll] using Spelled.array hlength (ih (hargs hfill _ List.mem_cons_self))
  | tuple _ ih =>
      simp only [Ty.subst, substAll_eq]
      refine .tuple fun a ha => ?_
      obtain ⟨b, hb, rfl⟩ := List.mem_map.mp ha
      exact ih b hb (hargs hfill b hb)
  | named hname _ _ ih =>
      simp only [Ty.subst, substAll_eq]
      refine .named hname (by simp) fun a ha => ?_
      obtain ⟨b, hb, rfl⟩ := List.mem_map.mp ha
      exact ih b hb (hargs hfill b hb)

end Ty
end FuzzSynth
