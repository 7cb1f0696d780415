/-
Other names for the parameters of a type.

`Ty.rename` gives the parameters of a type other names.  If these are path names that mean nothing
else in the type, then the renamed type is spelled over the new names (`Spelled.rename`), and if
none of them is `mut`, then no reference is taken for a mutable one (`refersToMut_rename`).  So the
renamed type is read from its notation (`parse_render_rename`).

Replacing the parameters of the renamed type is the same as replacing those of the type itself, as
long as what is put in goes with the names (`Over.subst_rename`).
-/
import FuzzSynth.Proofs.Ty.RoundTrip

namespace FuzzSynth
namespace Ty

open FuzzSynth.Text

/-- The type with other names for its parameters. -/
def rename (f : String → String) (t : Ty) : Ty :=
  t.subst fun name => some (param (f name))

/-- The name of the outermost node, if it is a path and no parameter. -/
def ownPath? : Ty → Option String
  | node (.path name) false _ => some name
  | _ => none

/-- The paths in a type, parameters apart. -/
def pathNames (t : Ty) : List String :=
  t.nodes.filterMap ownPath?

variable {f : String → String} {params : List String} {t : Ty} {name : String}

@[simp] theorem rename_param (f : String → String) (name : String) :
    (param name).rename f = param (f name) := rfl

@[simp] theorem rename_node (f : String → String) (g : Former) (as : List Ty) :
    (node g false as).rename f = node g false (as.map (rename f)) := by
  rw [rename, Ty.subst, substAll_eq]
  rfl

theorem mem_pathNames_node {g : Former} {p : Bool} {as : List Ty} :
    name ∈ (node g p as).pathNames ↔
      (node g p as).ownPath? = some name ∨ ∃ a ∈ as, name ∈ a.pathNames := by
  simp only [pathNames, List.mem_filterMap, mem_nodes_node]
  constructor
  · rintro ⟨n, rfl | ⟨a, ha, hn⟩, hname⟩
    · exact .inl hname
    · exact .inr ⟨a, ha, n, hn, hname⟩
  · rintro (hname | ⟨a, ha, n, hn, hname⟩)
    · exact ⟨_, .inl rfl, hname⟩
    · exact ⟨n, .inr ⟨a, ha, hn⟩, hname⟩

/-! ## Spelling -/

/-- New names that stand for nothing else in a type are the parameters of the renamed type. -/
theorem Spelled.rename (h : Spelled params t) (hpath : ∀ n ∈ params, IsPathName (f n).toList)
    (hfresh : ∀ n ∈ params, f n ∉ t.pathNames) : Spelled (params.map f) (t.rename f) := by
  have hargs : ∀ {g : Former} {as : List Ty}, (∀ n ∈ params, f n ∉ (node g false as).pathNames) →
      ∀ a ∈ as, ∀ n ∈ params, f n ∉ a.pathNames :=
    fun hfresh a ha n hn hmem => hfresh n hn (mem_pathNames_node.mpr (.inr ⟨a, ha, hmem⟩))
  induction h with
  | param hname hmem => exact .param (hpath _ hmem) (List.mem_map_of_mem hmem)
  | ref _ ih => simpa using Spelled.ref (ih (hargs hfresh _ List.mem_cons_self))
  | refMut _ ih => simpa using Spelled.refMut (ih (hargs hfresh _ List.mem_cons_self))
  | slice _ ih => simpa using Spelled.slice (ih (hargs hfresh _ List.mem_cons_self))
  | array hlength _ ih =>
      simpa using Spelled.array hlength (ih (hargs hfresh _ List.mem_cons_self))
  | tuple _ ih =>
      rw [rename_node]
      refine .tuple fun a ha => ?_
      obtain ⟨b, hb, rfl⟩ := List.mem_map.mp ha
      exact ih b hb (hargs hfresh b hb)
  | @named name args hname _ _ ih =>
      rw [rename_node]
      refine .named hname ?_ fun a ha => ?_
      · -- the path would be taken for a parameter if it were one of the new names
        intro hmem
        obtain ⟨n, hn, rfl⟩ := List.mem_map.mp hmem
        exact hfresh n hn (mem_pathNames_node.mpr (.inl rfl))
      · obtain ⟨b, hb, rfl⟩ := List.mem_map.mp ha
        exact ih b hb (hargs hfresh b hb)

theorem namesMut_rename (h : Over params t)
    (hmut : ∀ n ∈ params, firstName (f n) ≠ ['m', 'u', 't']) (ht : t.namesMut = false) :
    (t.rename f).namesMut = false := by
  cases h with
  | param hname => simpa [namesMut] using hmut _ hname
  | named => simpa [namesMut] using ht
  | _ => simp [namesMut]

/-- A new name other than `mut` makes no reference one to `mut`. -/
theorem refersToMut_rename (h : Over params t)
    (hmut : ∀ n ∈ params, firstName (f n) ≠ ['m', 'u', 't']) (ht : t.refersToMut = false) :
    (t.rename f).refersToMut = false := by
  induction h with
  | param => exact refersToMut_eq_false_iff.mpr ⟨rfl, by simp⟩
  | ref hinner ih =>
      -- only here does it matter what the inner type is called
      obtain ⟨hnames, hrest⟩ := refersToMut_eq_false_iff.mp ht
      rw [rename_node]
      exact refersToMut_eq_false_iff.mpr
        ⟨namesMut_rename hinner hmut hnames, by simpa using ih (hrest _ List.mem_cons_self)⟩
  | refMut _ ih | slice _ ih | array _ ih =>
      obtain ⟨-, hrest⟩ := refersToMut_eq_false_iff.mp ht
      rw [rename_node]
      exact refersToMut_eq_false_iff.mpr ⟨rfl, by simpa using ih (hrest _ List.mem_cons_self)⟩
  | tuple _ ih | named _ ih =>
      obtain ⟨-, hrest⟩ := refersToMut_eq_false_iff.mp ht
      rw [rename_node]
      refine refersToMut_eq_false_iff.mpr ⟨rfl, fun a ha => ?_⟩
      obtain ⟨b, hb, rfl⟩ := List.mem_map.mp ha
      exact ih b hb (hrest b hb)

/-! ## Reading the renamed type -/

/-- An identifier has no second part. -/
theorem firstName_of_isIdentifier (h : isIdentifier name.toList = true) :
    firstName name = name.toList := by
  rw [firstName, List.takeWhile_eq_self_iff]
  intro c hc
  have hident := isIdentChar_of_mem_identifier h c hc
  have hnocolon : isIdentChar ':' = false := by decide
  rw [bne_iff_ne]
  rintro rfl
  rw [hnocolon] at hident
  cases hident

/-- A type that was read is read again under other names. -/
theorem parse_render_rename {text : String} (h : parse params text = .ok t)
    (hident : ∀ n ∈ params, isIdentifier (f n).toList = true) (hmut : ∀ n ∈ params, f n ≠ "mut")
    (hfresh : ∀ n ∈ params, f n ∉ t.pathNames) :
    parse (params.map f) (t.rename f).render = .ok (t.rename f) := by
  have hspelled := (spelled_of_parse h).rename
    (fun n hn => isPathName_of_isIdentifier (hident n hn)) hfresh
  refine hspelled.parse_render (refersToMut_rename (over_of_parse h) (fun n hn => ?_)
    (refersToMut_of_parseChars h))
  rw [firstName_of_isIdentifier (hident n hn)]
  exact fun heq => hmut n hn (String.toList_inj.mp heq)

theorem parse_empty (params : List String) : parse params "" = .error .empty := by
  have htrim : trim "".toList = [] := rfl
  rw [parse, parseChars.eq_def]
  split
  · rfl
  all_goals simp_all

/-! ## Parameters and what is put in for them -/

theorem Over.mem_slots_rename (h : Over params t) (hname : name ∈ t.slots) :
    f name ∈ (t.rename f).slots := by
  induction h with
  | param =>
      rw [slots_param, List.mem_singleton] at hname
      rw [rename_param, slots_param, hname]
      exact List.mem_cons_self
  | ref _ ih | refMut _ ih | slice _ ih | array _ ih =>
      obtain ⟨a, ha, hname⟩ := mem_slots_node.mp hname
      rw [rename_node]
      rw [List.mem_singleton.mp ha] at hname
      exact mem_slots_node.mpr ⟨_, List.mem_cons_self, ih hname⟩
  | tuple _ ih | named _ ih =>
      obtain ⟨a, ha, hname⟩ := mem_slots_node.mp hname
      rw [rename_node]
      exact mem_slots_node.mpr ⟨_, List.mem_map_of_mem ha, ih a ha hname⟩

/-- Replacing a parameter under its new name is replacing it under its old one. -/
theorem Over.subst_rename (h : Over params t) {fill other : String → Option Ty}
    (hfill : ∀ n ∈ params, ∃ u, fill n = some u ∧ other (f n) = some u) :
    (t.rename f).subst other = t.subst fill := by
  induction h with
  | param hname =>
      obtain ⟨u, hu, hother⟩ := hfill _ hname
      simp [Ty.subst, Former.label, hu, hother]
  | ref _ ih | refMut _ ih | slice _ ih | array _ ih => simp [Ty.subst, substAll, ih]
  | tuple _ ih | named _ ih =>
      rw [rename_node, Ty.subst, Ty.subst, substAll_eq, substAll_eq, List.map_map]
      exact congrArg _ (List.map_congr_left ih)

end Ty
end FuzzSynth
